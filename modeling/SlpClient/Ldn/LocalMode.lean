import SlpClient.Ldn.SyncGate

/-!
# Local network mode

Entering local network mode is a transaction of five nifm calls, any of which
may fail, and leaving it undoes what entering did.  `LocalMode` keeps the
fields concerned.  No other operation touches them, so that every step of the
system enters the mode, leaves it, or lets it be.

A run leaks nothing exactly when no entry fails halfway: once the profile is
written, a failure leaves the raised MTU or an open request behind.
-/

namespace SlpClient.Ldn

open SlpClient.Lib

/-! ## The transaction -/

/-- The mode, and what the control plane holds of the nifm service. -/
structure LocalMode where
  active : Bool
  savedMtu : UInt32
  nifm : Nifm
deriving DecidableEq

namespace LocalMode

/-- What an entry with these replies leaves behind. -/
def enter (mode : LocalMode) (replies : NifmReplies) : LocalMode :=
  if mode.active || !replies.getCurrentNetworkProfile then mode
  else if !replies.setNetworkProfile then
    { mode with savedMtu := mode.nifm.mtu }
  else if !replies.createRequest then
    { mode with savedMtu := mode.nifm.mtu, nifm := ⟨1500, mode.nifm.requests⟩ }
  else
    { active := replies.setLocalNetworkMode && replies.requestSubmitAndWait
      savedMtu := mode.nifm.mtu
      nifm := ⟨1500, mode.nifm.requests + 1⟩ }

/-- What leaving the mode with these replies leaves behind. -/
def leave (mode : LocalMode) (replies : NifmReplies) : LocalMode :=
  if mode.active then
    { mode with
      active := false
      nifm :=
        { mtu :=
            if replies.getCurrentNetworkProfile &&
                replies.setNetworkProfile then
              mode.savedMtu
            else mode.nifm.mtu
          requests := mode.nifm.requests - 1 } }
  else mode

end LocalMode

namespace LdnControl

def localMode (control : LdnControl) : LocalMode where
  active := control.localNetworkMode
  savedMtu := control.savedMtu
  nifm := control.nifm

theorem localMode_enterLocalNetworkMode (control : LdnControl) (env : Env) :
    (control.enterLocalNetworkMode env).2.localMode =
      control.localMode.enter env.nifm := by
  unfold enterLocalNetworkMode
  dsimp only
  split_ifs <;> simp_all [LocalMode.enter, localMode]

theorem localMode_leaveLocalNetworkMode (control : LdnControl) (env : Env) :
    (control.leaveLocalNetworkMode env).localMode =
      control.localMode.leave env.nifm := by
  unfold leaveLocalNetworkMode exitLocalNetworkMode
  dsimp only
  split_ifs <;> simp_all [LocalMode.leave, localMode]

/-! ## What lets the mode be -/

@[simp]
theorem localMode_setState (control : LdnControl) (state : CommState) :
    (control.setState state).localMode = control.localMode := by
  unfold setState
  split <;> rfl

@[simp]
theorem localMode_sendFrame (control : LdnControl) (env : Env)
    (dst : UInt32) (type : LanPacketType) (body : List UInt8) :
    (control.sendFrame env dst type body).control.localMode =
      control.localMode := by
  rw [sendFrame_control]
  rfl

@[simp]
theorem localMode_updateNodes (control : LdnControl) (env : Env) :
    (control.updateNodes env).control.localMode = control.localMode := by
  rw [updateNodes_control]
  rfl

@[simp]
theorem localMode_noteSyncSeq (control : LdnControl) (seq : UInt16) :
    (control.noteSyncSeq seq).localMode = control.localMode := by
  unfold noteSyncSeq
  split <;> rfl

@[simp]
theorem localMode_loseHost (control : LdnControl) (reason : UInt32) :
    (control.loseHost reason).localMode = control.localMode := by
  unfold loseHost
  rw [localMode_setState]
  rfl

@[simp]
theorem localMode_applySync (control : LdnControl) (env : Env)
    (info : NetworkInfo) :
    (control.applySync env info).control.localMode =
      control.localMode := by
  unfold applySync
  split_ifs
  · change
      ((control.received env info).setState .stationConnected).localMode = _
    rw [localMode_setState]
    rfl
  · rfl
  · rfl

theorem localMode_handleScan (control : LdnControl) (env : Env)
    (srcIp : UInt32) :
    (control.handleScan env srcIp).control.localMode =
      control.localMode := by
  unfold handleScan
  split
  · rfl
  · rw [Step.after_control, localMode_sendFrame]
    rfl

theorem localMode_handleScanResp (control : LdnControl) (srcIp : UInt32)
    (body : List UInt8) :
    (control.handleScanResp srcIp body).control.localMode =
      control.localMode := by
  unfold handleScanResp
  dsimp only
  split_ifs
  · rfl
  · rfl
  · rfl
  · split <;> rfl
  · split <;> rfl

theorem localMode_handleConnect (control : LdnControl) (env : Env)
    (srcIp : UInt32) (body : List UInt8) :
    (control.handleConnect env srcIp body).control.localMode =
      control.localMode := by
  unfold handleConnect
  dsimp only
  split_ifs
  · rfl
  · rfl
  · rfl
  · split
    · rfl
    · rw [Step.after_control, localMode_updateNodes]
      rfl

theorem localMode_handleSyncNetwork (control : LdnControl) (env : Env)
    (body : List UInt8) (seq : UInt16) :
    (control.handleSyncNetwork env body seq).control.localMode =
      control.localMode := by
  unfold handleSyncNetwork
  dsimp only
  split_ifs
  · rfl
  · rfl
  · rfl
  · rw [localMode_noteSyncSeq]
  · rw [Step.after_control, localMode_applySync, localMode_noteSyncSeq]

theorem localMode_handleRelayHeartbeat (control : LdnControl) (env : Env)
    (srcIp : UInt32) (body : List UInt8) :
    (control.handleRelayHeartbeat env srcIp body).control.localMode =
      control.localMode := by
  unfold handleRelayHeartbeat
  dsimp only
  split_ifs
  · rfl
  · rfl
  · rfl
  · split <;> rfl

theorem localMode_handleRelayBye (control : LdnControl) (env : Env)
    (srcIp : UInt32) (body : List UInt8) :
    (control.handleRelayBye env srcIp body).control.localMode =
      control.localMode := by
  unfold handleRelayBye
  dsimp only
  split_ifs
  · rfl
  · rw [localMode_loseHost]
  · rfl
  · rfl
  · split
    · rfl
    · rw [Step.after_control, localMode_updateNodes]
      rfl
  · rfl

theorem localMode_onControlFrame (control : LdnControl) (env : Env)
    (srcIp : UInt32) (payload : List UInt8) :
    (control.onControlFrame env srcIp payload).control.localMode =
      control.localMode := by
  rw [onControlFrame_eq, locked_control, Step.after_control]
  cases openedFrame payload with
  | none => rfl
  | some opened =>
      rcases opened with ⟨type, body, seq⟩
      cases type with
      | scan => exact localMode_handleScan ..
      | scanResp => exact localMode_handleScanResp ..
      | connect => exact localMode_handleConnect ..
      | syncNetwork => exact localMode_handleSyncNetwork ..
      | relayHeartbeat => exact localMode_handleRelayHeartbeat ..
      | relayBye => exact localMode_handleRelayBye ..

theorem localMode_sendHeartbeat (control : LdnControl) (env : Env) :
    (control.sendHeartbeat env).control.localMode = control.localMode := by
  unfold sendHeartbeat
  split
  · rw [localMode_sendFrame]
  · rfl

theorem localMode_dropSilentHost (control : LdnControl) (now : Int) :
    (control.dropSilentHost now).localMode = control.localMode := by
  unfold dropSilentHost
  split
  · rw [localMode_loseHost]
  · rfl

theorem localMode_tick (control : LdnControl) (env : Env) :
    (control.tick env).control.localMode = control.localMode := by
  unfold tick
  rw [locked_control]
  split_ifs
  · rfl
  · rw [localMode_updateNodes]
    rfl
  · rw [Step.andThen_control, localMode_dropSilentHost,
      localMode_sendHeartbeat]
    rfl
  · rfl

end LdnControl

/-! ## Steps -/

/-- What an operation does to local network mode. -/
inductive ModeAction
  | enter
  | leave
  | keep
deriving DecidableEq

/-- The mode after an action. -/
def LocalMode.after (mode : LocalMode) (replies : NifmReplies) :
    ModeAction → LocalMode
  | .enter => mode.enter replies
  | .leave => mode.leave replies
  | .keep => mode

namespace LdnControl

/-- What a command does to the mode, when the IPC thread takes it. -/
def modeAction (control : LdnControl) : Command → ModeAction
  | .openAccessPoint => if control.state = .none then .keep else .enter
  | .openStation => if control.state = .none then .keep else .enter
  | .closeAccessPoint => if control.state = .none then .keep else .leave
  | .closeStation => if control.state = .none then .keep else .leave
  | .initializeLdn => .leave
  | .finalize => .leave
  | _ => .keep

theorem localMode_openRole (control : LdnControl) (env : Env)
    (role : CommState) :
    (control.openRole env role).control.localMode =
      control.localMode.after env.nifm
        (if control.state = .none then .keep else .enter) := by
  unfold openRole
  dsimp only
  split
  · rfl
  · rw [answer_control, localMode_setState]
    have cleared :=
      localMode_enterLocalNetworkMode
        { control with disconnectReason := 0 } env
    split
    · rename_i active
      change control.localMode = control.localMode.enter env.nifm
      simp [LocalMode.enter, localMode, active]
    · exact cleared

theorem localMode_closeRole (control : LdnControl) (env : Env) :
    (control.closeRole env).control.localMode =
      control.localMode.after env.nifm
        (if control.state = .none then .keep else .leave) := by
  unfold closeRole
  split
  · rfl
  · dsimp only
    rw [answer_control, localMode_setState]
    exact control.localMode_leaveLocalNetworkMode env

theorem localMode_initializeLdn (control : LdnControl) (env : Env) :
    (control.initializeLdn env).control.localMode =
      control.localMode.leave env.nifm := by
  unfold initializeLdn
  rw [answer_control, localMode_setState]
  exact localMode_leaveLocalNetworkMode _ env

theorem localMode_finalize (control : LdnControl) (env : Env) :
    (control.finalize env).control.localMode =
      control.localMode.leave env.nifm := by
  unfold finalize
  rw [answer_control, localMode_setState]
  exact control.localMode_leaveLocalNetworkMode env

theorem localMode_getNetworkInfoLatestUpdate (control : LdnControl)
    (capacity : Nat) :
    (control.getNetworkInfoLatestUpdate capacity).control.localMode =
      control.localMode := by
  unfold getNetworkInfoLatestUpdate
  split_ifs <;> rfl

theorem localMode_createNetwork (control : LdnControl) (env : Env)
    (data : CreateNetworkConfig) :
    (control.createNetwork env data).control.localMode =
      control.localMode := by
  unfold createNetwork
  split
  · rfl
  · rw [answer_control, localMode_updateNodes, localMode_setState]
    rfl

theorem localMode_destroyNetwork (control : LdnControl) (env : Env) :
    (control.destroyNetwork env).control.localMode =
      control.localMode := by
  unfold destroyNetwork
  rw [answer_control, Step.andThen_control, localMode_setState]
  split
  · exact control.localMode_sendFrame ..
  · rfl

theorem localMode_setAdvertiseData (control : LdnControl) (env : Env)
    (data : List UInt8) :
    (control.setAdvertiseData env data).control.localMode =
      control.localMode := by
  unfold setAdvertiseData
  split
  · rfl
  · rw [answer_control, Step.after_control, localMode_updateNodes]
    rfl

theorem localMode_disconnect (control : LdnControl) (env : Env) :
    (control.disconnect env).control.localMode = control.localMode := by
  unfold disconnect
  rw [answer_control, Step.andThen_control, localMode_setState]
  split
  · exact control.localMode_sendFrame ..
  · rfl

end LdnControl

namespace System

open LdnControl

/-- What an event does to the mode. -/
def modeAction (system : System) : Event → ModeAction
  | .command command =>
      if system.phase = .idle then system.control.modeAction command
      else .keep
  | .enterLocalNetworkModePublic => .enter
  | .exitLocalNetworkModePublic => .leave
  | _ => .keep

theorem localMode_commandStep (control : LdnControl) (env : Env)
    (command : Command) :
    (commandStep control env command).1.control.localMode =
      control.localMode.after env.nifm (control.modeAction command) := by
  cases command with
  | openAccessPoint => exact control.localMode_openRole env .accessPoint
  | openStation => exact control.localMode_openRole env .station
  | closeAccessPoint => exact control.localMode_closeRole env
  | closeStation => exact control.localMode_closeRole env
  | initializeLdn => exact control.localMode_initializeLdn env
  | finalize => exact control.localMode_finalize env
  | getNetworkInfo =>
      exact congrArg localMode (whenInNetwork_control _ _)
  | getSecurityParameter =>
      exact congrArg localMode (whenInNetwork_control _ _)
  | getNetworkConfig =>
      exact congrArg localMode (whenInNetwork_control _ _)
  | getNetworkInfoLatestUpdate capacity =>
      exact control.localMode_getNetworkInfoLatestUpdate capacity
  | createNetwork data => exact control.localMode_createNetwork env data
  | destroyNetwork => exact control.localMode_destroyNetwork env
  | setAdvertiseData data =>
      exact control.localMode_setAdvertiseData env data
  | disconnect => exact control.localMode_disconnect env
  | scan filter capacity =>
      unfold commandStep
      dsimp only
      split <;> rfl
  | connect dat data =>
      unfold commandStep
      dsimp only
      split_ifs <;> rfl
  | _ => rfl

theorem localMode_ipcStep (system : System) (env : Env) :
    (system.ipcStep env).1.control.localMode = system.control.localMode := by
  unfold ipcStep
  split
  · rfl
  · exact localMode_sendFrame ..
  · dsimp only [enter]
    split
    · exact localMode_sendFrame ..
    · rfl
  · rfl
  · rfl
  · exact localMode_sendFrame ..
  · dsimp only
    split <;> rfl
  · dsimp only [enter]
    split
    · exact localMode_sendFrame ..
    · rfl
  · rfl

/-- Every step enters the mode, leaves it, or lets it be. -/
theorem next_localMode (system : System) (input : Env × Event) :
    (machine.next system input).control.localMode =
      system.control.localMode.after input.1.nifm
        (system.modeAction input.2) := by
  rcases input with ⟨env, event⟩
  cases event with
  | command command =>
      simp only [Machine.next, machine, step, modeAction]
      split
      · rename_i idle
        rw [if_pos idle]
        exact localMode_commandStep ..
      · rename_i busy
        rw [if_neg busy]
        rfl
  | ipc => exact system.localMode_ipcStep env
  | frame srcIp payload =>
      exact system.control.localMode_onControlFrame env srcIp payload
  | tick => exact system.control.localMode_tick env
  | knownPeer ip => rfl
  | enterLocalNetworkModePublic =>
      exact system.control.localMode_enterLocalNetworkMode env
  | exitLocalNetworkModePublic =>
      exact system.control.localMode_leaveLocalNetworkMode env

end System

/-! ## Leaks -/

namespace LocalMode

/--
One request is open in the mode and none outside of it, where the MTU is the
one from before the first entry.
-/
@[mk_iff]
structure Clean (mtu : UInt32) (mode : LocalMode) : Prop where
  requests : mode.nifm.requests = if mode.active then 1 else 0
  restored : mode.active = false → mode.nifm.mtu = mtu

/-- Inside the mode, the MTU to restore is the one from before. -/
structure Restorable (mtu : UInt32) (mode : LocalMode) : Prop
    extends Clean mtu mode where
  saved : mode.active = true → mode.savedMtu = mtu

end LocalMode

/-- The calls that leaving the mode makes succeed. -/
def NifmReplies.restores (replies : NifmReplies) : Bool :=
  replies.getCurrentNetworkProfile && replies.setNetworkProfile

/--
An entry that gets to write the profile also gets to the end, or fails to
create its request with a profile that has the raised MTU anyway.
-/
def NifmReplies.Whole (replies : NifmReplies) (mtu : UInt32) : Prop :=
  replies.getCurrentNetworkProfile = true →
    replies.setNetworkProfile = true →
      if replies.createRequest then
        replies.setLocalNetworkMode = true ∧
          replies.requestSubmitAndWait = true
      else mtu = 1500

namespace LocalMode

variable {mtu : UInt32} {mode : LocalMode} {replies : NifmReplies}

theorem Restorable.leave (restorable : mode.Restorable mtu)
    (restores : replies.restores = true) :
    (mode.leave replies).Restorable mtu := by
  unfold LocalMode.leave
  split
  · rename_i active
    have requests := restorable.requests
    rw [if_pos active] at requests
    rw [NifmReplies.restores] at restores
    rw [if_pos restores]
    exact
      { requests := by simp [requests]
        restored := fun _ => restorable.saved active
        saved := nofun }
  · exact restorable

/-- Exactly the whole entries leave nothing behind. -/
theorem Restorable.enter_iff (restorable : mode.Restorable mtu) :
    (mode.enter replies).Clean mtu ↔
      (mode.active = false → replies.Whole mode.nifm.mtu) := by
  cases active : mode.active with
  | true =>
      have same : mode.enter replies = mode := by
        simp [LocalMode.enter, active]
      rw [same]
      exact iff_of_true restorable.toClean nofun
  | false =>
      have requests := restorable.requests
      have restored := restorable.restored active
      rw [active, if_neg Bool.false_ne_true] at requests
      rcases replies with ⟨_ | _, _ | _, _ | _, _ | _, _ | _⟩ <;>
        simp [LocalMode.enter, active, clean_iff, requests, restored,
          NifmReplies.Whole, eq_comm]

theorem Restorable.enter (restorable : mode.Restorable mtu)
    (clean : (mode.enter replies).Clean mtu) :
    (mode.enter replies).Restorable mtu where
  toClean := clean
  saved := by
    cases active : mode.active with
    | true =>
        have same : mode.enter replies = mode := by
          simp [LocalMode.enter, active]
        rw [same]
        exact restorable.saved
    | false =>
        have restored := restorable.restored active
        unfold LocalMode.enter
        split_ifs <;> simp_all

end LocalMode

/-- The operations that leave the mode, if it is entered. -/
def Event.leavesMode : Event → Bool
  | .command .closeAccessPoint => true
  | .command .closeStation => true
  | .command .initializeLdn => true
  | .command .finalize => true
  | .exitLocalNetworkModePublic => true
  | _ => false

namespace System

/-- After the step nothing is leaked. -/
def NoLeak (mtu : UInt32) (system : System) : Prop :=
  system.control.localMode.Clean mtu

/-- An entry from outside the mode is whole. -/
def EntersWhole (system : System) (input : Env × Event) : Prop :=
  system.modeAction input.2 = .enter →
    system.control.localNetworkMode = false →
      input.1.nifm.Whole system.control.nifm.mtu

/-- Where the mode is left, the calls succeed. -/
def Restores (input : Env × Event) : Prop :=
  input.2.leavesMode = true → input.1.nifm.restores = true

theorem leavesMode_of_modeAction {system : System} {event : Event}
    (leaves : system.modeAction event = .leave) :
    event.leavesMode = true := by
  cases event with
  | command command =>
      simp only [modeAction] at leaves
      split at leaves
      · cases command with
        | openAccessPoint =>
            simp only [LdnControl.modeAction] at leaves
            split at leaves <;> simp at leaves
        | openStation =>
            simp only [LdnControl.modeAction] at leaves
            split at leaves <;> simp at leaves
        | closeAccessPoint => rfl
        | closeStation => rfl
        | initializeLdn => rfl
        | finalize => rfl
        | _ => simp [LdnControl.modeAction] at leaves
      · simp at leaves
  | exitLocalNetworkModePublic => rfl
  | _ => simp [modeAction] at leaves

variable {mtu : UInt32}

theorem restorable_next (system : System) (input : Env × Event)
    (restorable : system.control.localMode.Restorable mtu)
    (restores : Restores input) (whole : system.EntersWhole input) :
    (machine.next system input).control.localMode.Restorable mtu := by
  rw [next_localMode]
  cases action : system.modeAction input.2 with
  | enter => exact restorable.enter (restorable.enter_iff.2 (whole action))
  | leave =>
      exact restorable.leave (restores (leavesMode_of_modeAction action))
  | keep => exact restorable

theorem entersWhole_of_noLeak (system : System) (input : Env × Event)
    (restorable : system.control.localMode.Restorable mtu)
    (clean : (machine.next system input).NoLeak mtu) :
    system.EntersWhole input := by
  intro action
  rw [NoLeak, next_localMode, action] at clean
  exact restorable.enter_iff.1 clean

/--
When the calls that leave local network mode succeed, a run leaks no request
and no MTU exactly when every entry that writes the profile gets to its end.
-/
theorem noLeak_iff_entersWhole (mtu : UInt32) (inputs : List (Env × Event))
    (restores : ∀ input ∈ inputs, Restores input) :
    machine.EachState (NoLeak mtu) (initial mtu) inputs ↔
      machine.EachStep EntersWhole (initial mtu) inputs := by
  have initially : (initial mtu).control.localMode.Restorable mtu :=
    ⟨⟨rfl, fun _ => rfl⟩, nofun⟩
  have gives (system : System)
      (restorable : system.control.localMode.Restorable mtu) :
      system.NoLeak mtu :=
    restorable.toClean
  have needs (system : System) (input : Env × Event)
      (restorable : system.control.localMode.Restorable mtu)
      (_ : Restores input) (clean : (machine.next system input).NoLeak mtu) :
      system.EntersWhole input :=
    entersWhole_of_noLeak system input restorable clean
  exact
    Machine.eachState_iff_eachStep_of_invariant gives restorable_next needs
      initially restores

/-- A station opens and closes its role, and every call succeeds. -/
def roleVisit : List (Env × Event) :=
  [(Env.at 0, .command .initializeLdn), (Env.at 0, .command .openStation),
    (Env.at 0, .command .closeStation)]

/-- Nothing is leaked when every call succeeds. -/
theorem roleVisit_noLeak :
    machine.EachState (NoLeak 1400) (initial 1400) roleVisit := by
  have restores : ∀ input ∈ roleVisit, Restores input := by
    simp [roleVisit, Restores, NifmReplies.restores, Env.at]
  have succeeds (mtu : UInt32) : (Env.at 0).nifm.Whole mtu := by
    simp [NifmReplies.Whole, Env.at]
  have whole : machine.EachStep EntersWhole (initial 1400) roleVisit :=
    ⟨fun _ _ => succeeds _, fun _ _ => succeeds _, fun _ _ => succeeds _,
      trivial⟩
  exact (noLeak_iff_entersWhole 1400 roleVisit restores).2 whole

/-- The console's answers when no request can be submitted. -/
def refusingEnv : Env :=
  { Env.at 0 with nifm := ⟨true, true, true, true, false⟩ }

/-- A station opens its role, and its request is refused. -/
def refusedRole : List (Env × Event) :=
  [(Env.at 0, .command .initializeLdn), (refusingEnv, .command .openStation)]

/-- A refused request stays open, and the MTU stays raised. -/
theorem refusedRole_leaks :
    (∀ input ∈ refusedRole, Restores input) ∧
      ¬ machine.EachState (NoLeak 1400) (initial 1400) refusedRole := by
  constructor
  · simp [refusedRole, Restores, NifmReplies.restores, Env.at,
      Event.leavesMode]
  · intro clean
    have requests := clean.last.requests
    nomatch requests

end System

end SlpClient.Ldn
