import SlpClient.Bsd.Receive
import SlpClient.Ldn.LocalMode
import SlpClient.Ldn.Transitions

/-!
# The owners of local network mode

Local network mode is one flag with two kinds of owners: the control plane
enters it when a role is opened, and a socket session enters it when it binds
the browse port.  Each leaves it without regard to the other.  The main
theorem says exactly which runs keep the mode for every owner: whoever
leaves it has to be the last one that needs it.
-/

namespace SlpClient

open SlpClient.Lib
open SlpClient.Bsd
open SlpClient.Ldn

/-! ## Owners -/

namespace Ldn

/-- The states in which a role is open. -/
def CommState.isRole : CommState → Bool
  | .accessPoint => true
  | .accessPointCreated => true
  | .station => true
  | .stationConnected => true
  | _ => false

/-- The entry points that only the socket service calls. -/
def Event.isPublicMode : Event → Bool
  | .enterLocalNetworkModePublic => true
  | .exitLocalNetworkModePublic => true
  | _ => false

end Ldn

/--
The control plane and the sockets, with `m_entered_local_network_mode` of the
live sessions, and whether the mode was on when a role was last opened and
the role is still open.
-/
structure ModeShare where
  ldn : System
  service : Service
  entered : Nat → Bool
  roleHolds : Bool

/--
What happens in the control plane, the commands of socket sessions, and the
end of a session.
-/
inductive ModeInput
  | ldn (env : Env) (event : Event) (own : event.isPublicMode = false)
  | command (env : Env) (session : Nat) (command : Service.Command)
  | destroy (env : Env) (session : Nat)

namespace ModeShare

/-- A console that has just started. -/
def initial (mtu localIp : UInt32) : ModeShare where
  ldn := .initial mtu
  service := .initial localIp
  entered _ := false
  roleHolds := false

/-- `EnterLocalNetworkModePublic` succeeds. -/
def entersPublic (share : ModeShare) (env : Env) : Bool :=
  (share.ldn.control.enterLocalNetworkMode env).1

/-- The command is a bind that ends with a proxy at the browse port. -/
def bindsBrowsePort (service : Service) (command : Service.Command) : Bool :=
  (service.delivers command).any fun bound => bound.2.1 == 30000

/-- What an event makes of the hold of the role. -/
def roleHoldsAfter (share : ModeShare) (env : Env) (event : Event) : Bool :=
  match share.ldn.modeAction event with
  | .enter =>
      (System.machine.next share.ldn (env, event)).control.localNetworkMode
  | .leave => false
  | .keep => share.roleHolds

def step (share : ModeShare) : ModeInput → ModeShare
  | .ldn env event _ =>
      { share with
        ldn := System.machine.next share.ldn (env, event)
        roleHolds := share.roleHoldsAfter env event }
  | .command env session command =>
      let executed :=
        { share with service := (share.service.execute command).1 }
      if bindsBrowsePort share.service command && !share.entered session then
        { executed with
          ldn :=
            System.machine.next share.ldn (env, .enterLocalNetworkModePublic)
          entered :=
            Function.update share.entered session (share.entersPublic env) }
      else executed
  | .destroy env session =>
      let destroyed :=
        { share with
          service := share.service.destroy session
          entered := Function.update share.entered session false }
      if share.entered session then
        { destroyed with
          ldn :=
            System.machine.next share.ldn
              (env, .exitLocalNetworkModePublic) }
      else destroyed

def machine : Machine ModeShare ModeInput Unit where
  step share input := (share.step input, ())

/-- `m_local_network_mode`. -/
def mode (share : ModeShare) : Bool :=
  share.ldn.control.localNetworkMode

/-- The mode is on for a role that was opened with it. -/
def RoleServed (share : ModeShare) : Prop :=
  share.ldn.control.state.isRole = true → share.roleHolds = true →
    share.mode = true

/-- The mode is on for every session that has entered it. -/
def SessionsServed (share : ModeShare) : Prop :=
  ∀ session, share.entered session = true → share.mode = true

/-- Nobody's mode was switched off by someone else. -/
def Served (share : ModeShare) : Prop :=
  share.RoleServed ∧ share.SessionsServed

/--
Whoever leaves the mode is the last one that needs it: the control plane
leaves it when no session has entered it, and a session that has entered it
ends when no role holds it and no other session has entered it.
-/
def LeavesLast (share : ModeShare) : ModeInput → Prop
  | .ldn _ event _ =>
      share.ldn.modeAction event = .leave →
        ∀ session, share.entered session = false
  | .command .. => True
  | .destroy _ session =>
      share.entered session = true →
        share.roleHolds = false ∧
          ∀ other, other ≠ session → share.entered other = false

/-! ## Roles -/

theorem state_setState (control : LdnControl) (state : CommState) :
    (control.setState state).state = state := by
  unfold LdnControl.setState
  split
  · rfl
  · rename_i same
    exact not_not.mp same

theorem state_openRole {control : LdnControl} {env : Env}
    {role : CommState} (ready : control.state ≠ .none) :
    (control.openRole env role).control.state = role := by
  unfold LdnControl.openRole
  dsimp only
  rw [if_neg ready, LdnControl.answer_control]
  exact state_setState _ role

/-- An open role stays open, unless the mode is left. -/
theorem isRole_of_move {system : System} {env : Env} {event : Event}
    {target : LdnControl} (move : Move system env event target)
    (stays : system.modeAction event ≠ .leave)
    (role : system.control.state.isRole = true) :
    target.state.isRole = true := by
  cases move with
  | still => exact role
  | initializeLdn idle =>
      exact absurd (by simp [System.modeAction, idle,
        LdnControl.modeAction]) stays
  | finalize idle =>
      exact absurd (by simp [System.modeAction, idle,
        LdnControl.modeAction]) stays
  | closeAccessPoint idle ready =>
      exact absurd (by simp [System.modeAction, idle,
        LdnControl.modeAction, ready]) stays
  | closeStation idle ready =>
      exact absurd (by simp [System.modeAction, idle,
        LdnControl.modeAction, ready]) stays
  | openAccessPoint => rfl
  | openStation => rfl
  | createNetwork => rfl
  | destroyNetwork => rfl
  | setAdvertiseData => exact role
  | disconnect => rfl
  | connect => exact role
  | connectTimeout => exact role
  | getNetworkInfoLatestUpdate => exact role
  | takeIn => exact role
  | stationBye => exact role
  | reap => exact role
  | noteSync srcIp payload info seq =>
      rw [LdnControl.noteSyncSeq_state]
      exact role
  | applySync srcIp payload info seq carried accepted =>
      rcases System.noteSyncSeq_applySync_state system.control env info seq with
        confirmed | same
      · rw [confirmed.2]
        rfl
      · rw [same]
        exact role
  | hostBye => rfl
  | hostSilent => rfl

/-- A role is open once the mode was entered for it. -/
theorem isRole_of_enter {system : System} {env : Env} {event : Event}
    (own : event.isPublicMode = false)
    (enters : system.modeAction event = .enter) :
    (System.machine.next system (env, event)).control.state.isRole =
      true := by
  cases event with
  | command command =>
      simp only [System.modeAction] at enters
      split at enters
      · rename_i idle
        have step := System.next_command env command idle
        unfold Machine.next
        rw [step]
        cases command with
        | openAccessPoint =>
            have ready : system.control.state ≠ .none := by
              intro none
              simp [LdnControl.modeAction, none] at enters
            change
              (system.control.openRole env
                .accessPoint).control.state.isRole = true
            rw [state_openRole ready]
            rfl
        | openStation =>
            have ready : system.control.state ≠ .none := by
              intro none
              simp [LdnControl.modeAction, none] at enters
            change
              (system.control.openRole env
                .station).control.state.isRole = true
            rw [state_openRole ready]
            rfl
        | closeAccessPoint =>
            simp only [LdnControl.modeAction] at enters
            split at enters <;> contradiction
        | closeStation =>
            simp only [LdnControl.modeAction] at enters
            split at enters <;> contradiction
        | _ => contradiction
      · contradiction
  | enterLocalNetworkModePublic => contradiction
  | _ => contradiction

/-! ## The mode -/

/-- The mode after an event. -/
theorem mode_next (system : System) (env : Env) (event : Event) :
    (System.machine.next system (env, event)).control.localNetworkMode =
      (system.control.localMode.after env.nifm
        (system.modeAction event)).active :=
  congrArg LocalMode.active (system.next_localMode (env, event))

/-- Entering does not switch the mode off. -/
theorem active_enter {mode : LocalMode} (replies : NifmReplies)
    (active : mode.active = true) : (mode.enter replies).active = true := by
  unfold LocalMode.enter
  rw [active, Bool.true_or, if_pos rfl]
  exact active

theorem active_leave (mode : LocalMode) (replies : NifmReplies) :
    (mode.leave replies).active = false := by
  unfold LocalMode.leave
  split
  · rfl
  · rename_i inactive
    simpa using inactive

/-- A successful entry ends with the mode on. -/
theorem active_of_enters {control : LdnControl} {env : Env}
    (succeeds : (control.enterLocalNetworkMode env).1 = true) :
    (control.enterLocalNetworkMode env).2.localNetworkMode = true := by
  unfold LdnControl.enterLocalNetworkMode at succeeds ⊢
  dsimp only at succeeds ⊢
  split_ifs at succeeds ⊢ <;> simp_all

/-- The entry points of the socket service leave the state alone. -/
theorem state_public (system : System) (env : Env) {event : Event}
    (public_ : event.isPublicMode = true) :
    (System.machine.next system (env, event)).control.state =
      system.control.state := by
  cases event with
  | enterLocalNetworkModePublic =>
      rcases system.control.enterLocalNetworkMode_shape env with
        ⟨nifm, savedMtu, mode, same⟩
      have state := congrArg LdnControl.state same
      exact state
  | exitLocalNetworkModePublic =>
      rcases system.control.leaveLocalNetworkMode_shape env with
        ⟨nifm, mode, same⟩
      have state := congrArg LdnControl.state same
      exact state
  | _ => contradiction

/-- The owners are served, and a role that holds the mode is open. -/
structure Shared (share : ModeShare) : Prop where
  role : share.roleHolds = true → share.mode = true
  opened : share.roleHolds = true → share.ldn.control.state.isRole = true
  sessions : share.SessionsServed

theorem Shared.served {share : ModeShare} (shared : share.Shared) :
    share.Served :=
  ⟨fun _ => shared.role, shared.sessions⟩

section Steps

variable {share : ModeShare} (shared : share.Shared)

include shared

theorem shared_ldn {env : Env} {event : Event}
    (own : event.isPublicMode = false)
    (last : share.LeavesLast (.ldn env event own)) :
    (share.step (.ldn env event own)).Shared := by
  have mode := mode_next share.ldn env event
  cases action : share.ldn.modeAction event with
  | enter =>
      rw [action] at mode
      refine ⟨?_, ?_, ?_⟩
      · intro holds
        change share.roleHoldsAfter env event = true at holds
        unfold roleHoldsAfter at holds
        rw [action] at holds
        exact holds
      · intro _
        exact isRole_of_enter own action
      · intro session entered
        exact mode.trans
          (active_enter env.nifm (shared.sessions session entered))
  | leave =>
      have released : share.roleHoldsAfter env event = false := by
        unfold roleHoldsAfter
        rw [action]
      refine ⟨?_, ?_, ?_⟩
      · intro holds
        exact absurd (holds.symm.trans released) (by decide)
      · intro holds
        exact absurd (holds.symm.trans released) (by decide)
      · intro session entered
        change share.entered session = true at entered
        rw [last action session] at entered
        contradiction
  | keep =>
      rw [action] at mode
      have kept : share.roleHoldsAfter env event = share.roleHolds := by
        unfold roleHoldsAfter
        rw [action]
      refine ⟨?_, ?_, ?_⟩
      · intro holds
        exact mode.trans (shared.role (kept.symm.trans holds))
      · intro holds
        rcases share.ldn.next_move (env, event) with ⟨target, move, same⟩
        change
          (System.machine.next share.ldn
            (env, event)).control.state.isRole = true
        rw [LdnControl.state_eq_of_core same]
        refine isRole_of_move move ?_ (shared.opened (kept.symm.trans holds))
        rw [action]
        decide
      · intro session entered
        exact mode.trans (shared.sessions session entered)

theorem shared_command (env : Env) (session : Nat)
    (command : Service.Command) :
    (share.step (.command env session command)).Shared := by
  unfold step
  dsimp only
  split
  · have mode := mode_next share.ldn env .enterLocalNetworkModePublic
    refine ⟨?_, ?_, ?_⟩
    · intro holds
      exact mode.trans (active_enter env.nifm (shared.role holds))
    · intro holds
      change
        (System.machine.next share.ldn
          (env, .enterLocalNetworkModePublic)).control.state.isRole = true
      rw [state_public _ env rfl]
      exact shared.opened holds
    · intro other entered
      by_cases same : other = session
      · subst same
        change Function.update share.entered other _ other = true at entered
        rw [Function.update_self] at entered
        exact active_of_enters entered
      · change Function.update share.entered session _ other = true
          at entered
        rw [Function.update_of_ne same] at entered
        exact mode.trans
          (active_enter env.nifm (shared.sessions other entered))
  · exact ⟨shared.role, shared.opened, shared.sessions⟩

theorem shared_destroy {env : Env} {session : Nat}
    (last : share.LeavesLast (.destroy env session)) :
    (share.step (.destroy env session)).Shared := by
  unfold step
  dsimp only
  split
  · rename_i entered
    have free := (last entered).1
    refine ⟨?_, ?_, ?_⟩
    · intro holds
      rw [show share.roleHolds = true from holds] at free
      contradiction
    · intro holds
      rw [show share.roleHolds = true from holds] at free
      contradiction
    · intro other still
      change Function.update share.entered session false other = true
        at still
      by_cases same : other = session
      · subst same
        rw [Function.update_self] at still
        contradiction
      · rw [Function.update_of_ne same, (last entered).2 other same] at still
        contradiction
  · refine ⟨shared.role, shared.opened, ?_⟩
    intro other still
    change Function.update share.entered session false other = true
      at still
    by_cases same : other = session
    · subst same
      rw [Function.update_self] at still
      contradiction
    · rw [Function.update_of_ne same] at still
      exact shared.sessions other still

theorem shared_step {input : ModeInput} (last : share.LeavesLast input) :
    (share.step input).Shared := by
  cases input with
  | ldn env event own => exact shared_ldn shared own last
  | command env session command =>
      exact shared_command shared env session command
  | destroy env session => exact shared_destroy shared last

/-- A step that leaves the mode is seen by everyone who still needs it. -/
theorem leavesLast_of_served {input : ModeInput}
    (served : (share.step input).Served) : share.LeavesLast input := by
  cases input with
  | ldn env event own =>
      intro leaves session
      by_contra needs
      have entered : share.entered session = true := by simpa using needs
      have mode := mode_next share.ldn env event
      rw [leaves] at mode
      have on := served.2 session entered
      rw [show (share.step (.ldn env event own)).mode = _ from mode] at on
      change (share.ldn.control.localMode.leave env.nifm).active = true
        at on
      rw [active_leave] at on
      contradiction
  | command => trivial
  | destroy env session =>
      intro entered
      have mode := mode_next share.ldn env .exitLocalNetworkModePublic
      have stepped :
          share.step (.destroy env session) =
            { share with
              service := share.service.destroy session
              entered := Function.update share.entered session false
              ldn :=
                System.machine.next share.ldn
                  (env, .exitLocalNetworkModePublic) } := by
        unfold step
        dsimp only
        rw [if_pos entered]
      have off : (share.step (.destroy env session)).mode = false := by
        rw [stepped]
        exact mode.trans (active_leave _ _)
      constructor
      · by_contra holds
        have held : share.roleHolds = true := by simpa using holds
        have open_ : (share.step
            (.destroy env session)).ldn.control.state.isRole = true := by
          rw [stepped]
          change
            (System.machine.next share.ldn
              (env, .exitLocalNetworkModePublic)).control.state.isRole =
                true
          rw [state_public _ env rfl]
          exact shared.opened held
        have on := served.1 open_ (by rw [stepped]; exact held)
        rw [off] at on
        contradiction
      · intro other differs
        by_contra needs
        have still :
            (share.step (.destroy env session)).entered other = true := by
          rw [stepped]
          change Function.update share.entered session false other = true
          rw [Function.update_of_ne differs]
          simpa using needs
        have on := served.2 other still
        rw [off] at on
        contradiction

end Steps

theorem initial_shared (mtu localIp : UInt32) :
    (initial mtu localIp).Shared where
  role := nofun
  opened := nofun
  sessions := nofun

/--
In every run the mode stays on for everyone who has entered it exactly when
every step that leaves the mode is one of its last owner.
-/
theorem served_iff_leavesLast (mtu localIp : UInt32)
    (inputs : List ModeInput) :
    machine.EachState Served (initial mtu localIp) inputs ↔
      machine.EachStep LeavesLast (initial mtu localIp) inputs := by
  have keeps (share : ModeShare) (input : ModeInput)
      (shared : share.Shared) (_ : True)
      (last : share.LeavesLast input) :
      (machine.next share input).Shared :=
    shared_step shared last
  have needs (share : ModeShare) (input : ModeInput)
      (shared : share.Shared) (_ : True)
      (served : (machine.next share input).Served) :
      share.LeavesLast input :=
    leavesLast_of_served shared served
  exact
    Machine.eachState_iff_eachStep_of_invariant
      (fun _ shared => shared.served) keeps needs
      (initial_shared mtu localIp) (fun _ _ => trivial)

/-- A station is open when a socket session binds the browse port and ends. -/
def browseDuringStation : List ModeInput :=
  [.ldn (Env.at 0) (.command .initializeLdn) rfl,
    .ldn (Env.at 0) (.command .openStation) rfl,
    .command (Env.at 0) 1 (.socket 1 2 17 ⟨true, 3, 0⟩),
    .command (Env.at 0) 1
      (.bind 3 [16, 2, 117, 48, 0, 0, 0, 0, 0, 0, 0, 0, 0, 0, 0, 0]),
    .destroy (Env.at 0) 1]

/-- The end of the session switches the mode of the station off. -/
theorem browseDuringStation_not_served :
    ¬machine.EachState Served (initial 1400 0) browseDuringStation := by
  intro always
  have on := always.last.1 rfl rfl
  contradiction

end ModeShare

end SlpClient
