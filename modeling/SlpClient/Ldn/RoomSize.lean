import SlpClient.Ldn.Membership
import SlpClient.Ldn.SentSyncs

/-!
# The announced size of a room

A room is announced with the number of consoles it is for, but a Connect
frame is admitted as long as the table has a slot.  Every network that the
host builds counts this console and its stations.  So what it holds, sends
and answers stays within the announced size exactly when whoever is taken in
anew finds the room not full.
-/

namespace SlpClient.Ldn

open SlpClient.Lib

/-- A network with no more members than announced. -/
def NetworkInfo.Within (info : NetworkInfo) : Prop :=
  info.ldn.nodeCount ≤ info.ldn.nodeCountMax

namespace LdnControl

theorem activeSlots_nodup (control : LdnControl) :
    control.activeSlots.Nodup :=
  List.Nodup.filter _ (by decide)

theorem activeSlots_length_of_noneNew {control after : LdnControl}
    (none : control.NoneNew after) :
    after.activeSlots.length ≤ control.activeSlots.length := by
  apply List.Subperm.length_le
  apply List.subperm_of_subset after.activeSlots_nodup
  intro slot active
  rcases mem_activeSlots.mp active with ⟨member, used⟩
  exact mem_activeSlots.mpr ⟨member, (none slot used).1⟩

/-- Taking a console in changes the slots in use by its own at most. -/
theorem TakenIn.mem_activeSlots_iff {control after : LdnControl}
    {env : Env} {srcIp : UInt32} {slot other : Fin 8}
    (taken : control.TakenIn env srcIp slot after)
    (member : slot ∈ stationSlots) :
    other ∈ after.activeSlots ↔
      other ∈ slot :: control.activeSlots := by
  rw [List.mem_cons]
  by_cases same : other = slot
  · subst same
    exact iff_of_true (taken.mem_activeSlots member) (.inl rfl)
  · rcases taken with ⟨node, stations⟩
    rw [LdnControl.mem_activeSlots, LdnControl.mem_activeSlots, stations,
      Function.update_of_ne same]
    exact (or_iff_right same).symm

/-- A console that is new takes one more slot, a known one its own. -/
theorem TakenIn.activeSlots_length {control after : LdnControl}
    {env : Env} {srcIp : UInt32} {slot : Fin 8}
    (taken : control.TakenIn env srcIp slot after)
    (found : control.connectSlot srcIp = some slot) :
    after.activeSlots.length =
      if control.findStationByIp srcIp = none then
        control.activeSlots.length + 1
      else control.activeSlots.length := by
  have member := (connectSlot_some found).1
  have same (slots : List (Fin 8)) (nodup : slots.Nodup)
      (listed : ∀ other,
        other ∈ after.activeSlots ↔ other ∈ slots) :
      after.activeSlots.length = slots.length :=
    ((List.perm_ext_iff_of_nodup after.activeSlots_nodup nodup).mpr
      listed).length_eq
  have opened (other : Fin 8) :
      other ∈ after.activeSlots ↔ other ∈ slot :: control.activeSlots :=
    taken.mem_activeSlots_iff member
  cases known : control.findStationByIp srcIp with
  | none =>
      rw [if_pos rfl]
      apply same (slot :: control.activeSlots)
      · apply List.nodup_cons.mpr
        refine ⟨?_, control.activeSlots_nodup⟩
        intro active
        unfold connectSlot at found
        rw [known] at found
        dsimp only at found
        split at found
        · exact absurd found.symm (Option.some_ne_none _)
        · have free := List.find?_some found
          rw [(LdnControl.mem_activeSlots.mp active).2] at free
          exact absurd free Bool.false_ne_true
      · exact opened
  | some own =>
      rw [if_neg (Option.some_ne_none own)]
      apply same control.activeSlots control.activeSlots_nodup
      intro other
      rw [opened, List.mem_cons]
      apply or_iff_right_of_imp
      rintro rfl
      unfold connectSlot at found
      rw [known] at found
      dsimp only at found
      rw [Option.some.injEq] at found
      subst found
      have station := findStationByIp_some known
      exact LdnControl.mem_activeSlots.mpr ⟨station.1, station.2.1⟩

/-- A sound table counts the slots in use. -/
theorem StationsSound.stationCount_eq {control : LdnControl}
    (sound : control.StationsSound) :
    control.stationCount = control.activeSlots.length :=
  congrArg List.length sound.liveSlots_eq

/-- A rebuilt network counts this console and the stations. -/
theorem StationsSound.nodeCount_buildNetwork {control : LdnControl}
    (sound : control.StationsSound) :
    control.buildNetwork.1.ldn.nodeCount.toNat =
      1 + control.activeSlots.length :=
  sound.advertises_rebuilt.nodeCount

/-! ### Frames that carry a network -/

theorem type_of_mem_syncStations {control : LdnControl} {env : Env}
    {slots : List (Fin 8)} {frame : Frame}
    (sent : frame ∈ sentFrames (control.syncStations env slots).effects) :
    frame.type = .syncNetwork := by
  induction slots generalizing control with
  | nil => exact absurd sent List.not_mem_nil
  | cons slot rest induction =>
      unfold syncStations at sent
      split at sent
      · rw [Step.andThen_effects, sentFrames_append, sentFrames_sendFrame,
          List.mem_append] at sent
        rcases sent with here | later
        · split at here
          · rw [List.mem_singleton.mp here]
          · exact absurd here List.not_mem_nil
        · exact induction later
      · exact induction sent

/-- `UpdateNodes` sends syncs. -/
theorem type_of_mem_updateNodes {control : LdnControl} {env : Env}
    {frame : Frame}
    (sent : frame ∈ sentFrames (control.updateNodes env).effects) :
    frame.type = .syncNetwork := by
  unfold updateNodes at sent
  rw [Step.after_effects, Step.andThen_effects, List.append_nil,
    sentFrames_append, sentFrames_buildNetwork, List.nil_append] at sent
  exact type_of_mem_syncStations sent

theorem sentFrames_locked (step : Step) :
    sentFrames (locked step).effects = sentFrames step.effects := by
  simp [Effect.sent]

theorem sentFrames_answer (step : Step) (reply : Reply) :
    sentFrames (answer step reply).effects = sentFrames step.effects := by
  rw [answer, Step.followedBy_effects, sentFrames_append,
    sentFrames_locked]
  simp [Effect.sent]

/-- No scan is answered. -/
def AnswersNoScan (step : Step) : Prop :=
  ∀ frame ∈ sentFrames step.effects, frame.type ≠ .scanResp

theorem answersNoScan_of_silent {step : Step}
    (silent : sentFrames step.effects = []) : AnswersNoScan step := by
  intro frame sent
  rw [silent] at sent
  exact absurd sent List.not_mem_nil

theorem answersNoScan_updateNodes (control : LdnControl) (env : Env)
    {effects : List Effect} (silent : sentFrames effects = []) :
    AnswersNoScan (Step.after effects (control.updateNodes env)) := by
  intro frame sent answer
  rw [Step.after_effects, sentFrames_append, silent,
    List.nil_append] at sent
  rw [type_of_mem_updateNodes sent] at answer
  exact absurd answer nofun

theorem answersNoScan_handleScanResp (control : LdnControl)
    (srcIp : UInt32) (body : List UInt8) :
    AnswersNoScan (control.handleScanResp srcIp body) := by
  apply answersNoScan_of_silent
  unfold handleScanResp
  split
  · rfl
  · split
    · rfl
    · dsimp only
      split
      · rfl
      · split
        · rfl
        · split <;> rfl

theorem answersNoScan_handleConnect (control : LdnControl) (env : Env)
    (srcIp : UInt32) (body : List UInt8) :
    AnswersNoScan (control.handleConnect env srcIp body) := by
  unfold handleConnect
  split
  · exact answersNoScan_of_silent rfl
  · split
    · exact answersNoScan_of_silent rfl
    · split
      · exact answersNoScan_of_silent rfl
      · dsimp only
        split
        · exact answersNoScan_of_silent rfl
        · exact answersNoScan_updateNodes _ env rfl

theorem answersNoScan_handleSyncNetwork {control : LdnControl} (env : Env)
    (body : List UInt8) (seq : UInt16)
    (hosting : control.state = .accessPointCreated) :
    AnswersNoScan (control.handleSyncNetwork env body seq) := by
  apply answersNoScan_of_silent
  unfold handleSyncNetwork
  rw [hosting]
  split
  · rfl
  · rfl

theorem answersNoScan_handleRelayHeartbeat (control : LdnControl)
    (env : Env) (srcIp : UInt32) (body : List UInt8) :
    AnswersNoScan (control.handleRelayHeartbeat env srcIp body) := by
  apply answersNoScan_of_silent
  unfold handleRelayHeartbeat
  split
  · rfl
  · split
    · rfl
    · dsimp only
      split
      · rfl
      · split <;> rfl

theorem answersNoScan_handleRelayBye (control : LdnControl) (env : Env)
    (srcIp : UInt32) (body : List UInt8) :
    AnswersNoScan (control.handleRelayBye env srcIp body) := by
  unfold handleRelayBye
  split
  · exact answersNoScan_of_silent rfl
  · dsimp only
    split
    · split <;> exact answersNoScan_of_silent rfl
    · split
      · split
        · exact answersNoScan_of_silent rfl
        · split
          · exact answersNoScan_of_silent rfl
          · exact answersNoScan_updateNodes _ env rfl
      · exact answersNoScan_of_silent rfl

/-- The answer to a scan is the network as it is then. -/
theorem body_of_mem_handleScan {control : LdnControl} {env : Env}
    {srcIp : UInt32} {frame : Frame}
    (sent : frame ∈ sentFrames (control.handleScan env srcIp).effects) :
    frame.body = NetworkInfo.codec.encode control.buildNetwork.1 := by
  unfold handleScan at sent
  split at sent
  · exact absurd sent List.not_mem_nil
  · dsimp only at sent
    rw [Step.after_effects, sentFrames_append, sentFrames_buildNetwork,
      List.nil_append, sentFrames_sendFrame] at sent
    split at sent
    · rw [List.mem_singleton.mp sent]
      have same :
          (control.recordScanner env.now srcIp).buildNetwork.1 =
            control.buildNetwork.1 := by
        rw [← core_buildNetwork, ← core_buildNetwork control]
        rfl
      exact congrArg NetworkInfo.codec.encode same
    · exact absurd sent List.not_mem_nil

/-- So is every scan answer that a frame brings about. -/
theorem body_of_scanResp {control : LdnControl} {env : Env}
    {srcIp : UInt32} {payload : List UInt8} {frame : Frame}
    (hosting : control.state = .accessPointCreated)
    (sent :
      frame ∈
        sentFrames (control.onControlFrame env srcIp payload).effects)
    (answer : frame.type = .scanResp) :
    frame.body = NetworkInfo.codec.encode control.buildNetwork.1 := by
  rw [onControlFrame_eq, sentFrames_locked, Step.after_effects,
    sentFrames_append, sentFrames_openAccesses, List.nil_append] at sent
  split at sent
  · exact absurd sent List.not_mem_nil
  · rename_i type body seq opened
    cases type with
    | scan => exact body_of_mem_handleScan sent
    | scanResp =>
        exact
          absurd answer
            (control.answersNoScan_handleScanResp srcIp body frame sent)
    | connect =>
        exact
          absurd answer
            (control.answersNoScan_handleConnect env srcIp body frame sent)
    | syncNetwork =>
        exact
          absurd answer
            (answersNoScan_handleSyncNetwork env body seq hosting frame
              sent)
    | relayHeartbeat =>
        exact
          absurd answer
            (control.answersNoScan_handleRelayHeartbeat env srcIp body
              frame sent)
    | relayBye =>
        exact
          absurd answer
            (control.answersNoScan_handleRelayBye env srcIp body frame
              sent)

/-- A tick of a host answers no scan. -/
theorem answersNoScan_tick {control : LdnControl} (env : Env)
    (hosting : control.state = .accessPointCreated) :
    AnswersNoScan (control.tick env) := by
  intro frame sent
  unfold tick at sent
  rw [sentFrames_locked] at sent
  split at sent
  · exact absurd sent List.not_mem_nil
  · exact answersNoScan_updateNodes _ env sentFrames_nil frame sent

/-! ## Rooms within their size -/

/-- A hosted room that holds no more consoles than announced. -/
structure RoomWithin (control : LdnControl) : Prop where
  room : control.RoomInvariant
  hosting : control.state = .accessPointCreated
  within :
    1 + control.activeSlots.length ≤
      control.networkInfo.ldn.nodeCountMax.toNat

/-- What such a host builds and what it holds. -/
theorem RoomWithin.networks {control : LdnControl}
    (holds : control.RoomWithin) :
    control.buildNetwork.1.Within ∧ control.networkInfo.Within := by
  have within := holds.within
  have built := holds.room.sound.nodeCount_buildNetwork
  have held := (holds.room.advertises holds.hosting).nodeCount
  constructor
  · apply UInt8.le_iff_toNat_le.mpr
    rw [built]
    exact within
  · apply UInt8.le_iff_toNat_le.mpr
    rw [held]
    exact within

theorem RoomInvariant.roomWithin_iff {control : LdnControl}
    (room : control.RoomInvariant)
    (hosting : control.state = .accessPointCreated) :
    control.RoomWithin ↔ control.networkInfo.Within := by
  constructor
  · exact fun holds => holds.networks.2
  · intro within
    refine ⟨room, hosting, ?_⟩
    rw [← (room.advertises hosting).nodeCount]
    exact UInt8.le_iff_toNat_le.mp within

end LdnControl

namespace System

open LdnControl

/-- Every network that a step of a host shows is within its size. -/
structure ShowsWithin (system : System) (input : Env × Event) : Prop where
  built : (machine.next system input).control.buildNetwork.1.Within
  held : (machine.next system input).control.networkInfo.Within
  sent :
    ∀ frame, Effect.send frame ∈ machine.output system input →
      frame.type = .scanResp ∨ frame.type = .syncNetwork →
        (NetworkInfo.codec.decode frame.body).Within
  answered :
    input.2 = .command .getNetworkInfo →
      ∀ info,
        Effect.reply (.networkInfo info) ∈ machine.output system input →
          info.Within

/-- Whoever is taken in anew finds the room not full. -/
def JoinsWithin (system : System) (input : Env × Event) : Prop :=
  ∀ srcIp slot, system.admission input = some (srcIp, slot) →
    system.control.findStationByIp srcIp = none →
      1 + system.control.stationCount <
        system.control.networkInfo.ldn.nodeCountMax.toNat

/-- A step keeps a room within its size exactly when its joins do. -/
theorem roomWithin_next_iff {system : System} {input : Env × Event}
    (holds : system.control.RoomWithin) (during : input.2.DuringRoom) :
    (machine.next system input).control.RoomWithin ↔
      system.JoinsWithin input := by
  have within := holds.within
  have same := sameRoom_next during holds.hosting
  have after := roomInvariant_next input holds.room
  have count := holds.room.sound.stationCount_eq
  have grown :
      (machine.next system input).control.RoomWithin ↔
        1 + (machine.next system input).control.activeSlots.length ≤
          system.control.networkInfo.ldn.nodeCountMax.toNat := by
    rw [← same.nodeCountMax]
    exact ⟨RoomWithin.within, fun within => ⟨after, same.hosting, within⟩⟩
  rw [grown]
  rcases system.next_members input with
    ⟨srcIp, slot, admitted, -, found, taken⟩ | ⟨refused, none⟩
  · rw [taken.activeSlots_length found]
    have joins :
        system.JoinsWithin input ↔
          (system.control.findStationByIp srcIp = none →
            1 + system.control.stationCount <
              system.control.networkInfo.ldn.nodeCountMax.toNat) := by
      constructor
      · intro joins
        exact joins srcIp slot admitted
      · intro room srcIp' slot' admitted'
        rw [admitted, Option.some.injEq, Prod.mk.injEq] at admitted'
        rw [← admitted'.1]
        exact room
    rw [joins, count]
    split
    · rename_i new
      exact ⟨fun fits _ => by omega, fun fits => by have := fits new; omega⟩
    · rename_i known
      exact ⟨fun _ new => absurd new known, fun _ => within⟩
  · have shrunk := activeSlots_length_of_noneNew none
    refine iff_of_true (by omega) ?_
    intro srcIp slot admitted
    rw [refused] at admitted
    exact absurd admitted.symm (Option.some_ne_none _)

/-- A frame with an encoded network carries that network. -/
theorem within_of_body {frame : Frame} {info : NetworkInfo}
    (body : frame.body = NetworkInfo.codec.encode info)
    (within : info.Within) :
    (NetworkInfo.codec.decode frame.body).Within := by
  rw [body, ByteCodec.decode_encode]
  exact within

/-- The query for the network answers with what a host holds. -/
theorem getNetworkInfo_effects {system : System} {env : Env}
    {effect : Effect}
    (hosting : system.control.state = .accessPointCreated)
    (member :
      effect ∈
        machine.output system (env, .command .getNetworkInfo)) :
    effect = .lock ∨ effect = .unlock ∨
      effect = .reply (.networkInfo system.control.networkInfo) := by
  unfold Machine.output at member
  by_cases idle : system.phase = .idle
  · rw [next_command env .getNetworkInfo idle] at member
    change
      effect ∈
        (system.control.whenInNetwork
          (.networkInfo system.control.networkInfo)).effects at member
    unfold whenInNetwork at member
    rw [if_neg (by simp [hosting])] at member
    simpa [answerOnly, answer] using member
  · rw [next_command_busy env .getNetworkInfo idle] at member
    exact absurd member List.not_mem_nil

/-- A room that stays within its size shows nothing else. -/
theorem showsWithin_of_roomWithin {system : System} {input : Env × Event}
    (holds : system.control.RoomWithin) (during : input.2.DuringRoom)
    (after : (machine.next system input).control.RoomWithin) :
    system.ShowsWithin input where
  built := after.networks.1
  held := after.networks.2
  sent frame sent type := by
    rcases type with answer | sync
    · apply within_of_body _ holds.networks.1
      rw [← mem_sentFrames] at sent
      rcases input with ⟨env, event⟩
      cases event with
      | frame srcIp payload =>
          exact body_of_scanResp holds.hosting sent answer
      | tick =>
          exact
            absurd answer
              (answersNoScan_tick env holds.hosting frame sent)
      | command command =>
          cases command with
          | getNetworkInfo =>
              have effects :=
                getNetworkInfo_effects holds.hosting
                  (mem_sentFrames.mp sent)
              simp at effects
          | _ => exact during.elim
      | _ => exact during.elim
    · have hosted := (sendsHosted_output holds.room input frame sent).2 sync
      exact within_of_body hosted.2 after.networks.2
  answered query info answered := by
    rcases input with ⟨env, event⟩
    dsimp only at query
    subst query
    have effects := getNetworkInfo_effects holds.hosting answered
    have same : info = system.control.networkInfo := by
      simpa using effects
    rw [same]
    exact holds.networks.2

/-- The steps of a room within its size. -/
theorem showsWithin_iff {system : System} {input : Env × Event}
    (holds : system.control.RoomWithin) (during : input.2.DuringRoom) :
    system.ShowsWithin input ↔ system.JoinsWithin input := by
  have same := sameRoom_next during holds.hosting
  have after := roomInvariant_next input holds.room
  rw [← roomWithin_next_iff holds during]
  constructor
  · intro shows
    exact (after.roomWithin_iff same.hosting).mpr shows.held
  · exact showsWithin_of_roomWithin holds during

/-! ### Creating a room -/

/-- A command of an idle IPC thread that creates a room. -/
theorem next_createNetwork {system : System} (env : Env)
    (config : CreateNetworkConfig) (idle : system.phase = .idle)
    (opened : system.control.state = .accessPoint) :
    machine.step system (env, .command (.createNetwork config)) =
      enter
        (answer
          (((system.control.created env
            config).resetStations.initNodeStateChange.setState
              .accessPointCreated).updateNodes env)
          (.code .success)) .idle := by
  rw [next_command env _ idle]
  change
    enter (system.control.createNetwork env config) .idle = enter _ .idle
  rw [createNetwork, if_neg (not_not.mpr opened)]

/-- A created room holds this console. -/
theorem roomWithin_createNetwork {system : System} {env : Env}
    {config : CreateNetworkConfig} (holds : system.control.RoomInvariant)
    (idle : system.phase = .idle)
    (opened : system.control.state = .accessPoint)
    (positive : 1 ≤ config.networkConfig.nodeCountMax) :
    (machine.next system
      (env, .command (.createNetwork config))).control.RoomWithin := by
  have room :=
    roomInvariant_next (env, .command (.createNetwork config)) holds
  have same :
      (machine.next system
          (env, .command (.createNetwork config))).control.core =
        (((system.control.created env
          config).resetStations.initNodeStateChange).inState
            .accessPointCreated).rebuilt.core := by
    unfold Machine.next
    rw [next_createNetwork env config idle opened]
    show (updateNodes _ env).control.core = _
    rw [core_updateNodes]
    exact rebuilt_congr (core_setState _ _)
  have network := (view_eq_of_core same).1
  have slots := congrArg activeSlots same
  have empty :
      (machine.next system
        (env, .command (.createNetwork config))).control.activeSlots =
          [] :=
    slots.trans (system.control.created env config).activeSlots_resetStations
  refine ⟨room, state_eq_of_core same, ?_⟩
  rw [empty, network]
  exact UInt8.le_iff_toNat_le.mp positive

/-- What is shown when a room is created. -/
theorem showsWithin_createNetwork {system : System} {env : Env}
    {config : CreateNetworkConfig} (holds : system.control.RoomInvariant)
    (idle : system.phase = .idle)
    (opened : system.control.state = .accessPoint)
    (positive : 1 ≤ config.networkConfig.nodeCountMax) :
    system.ShowsWithin (env, .command (.createNetwork config)) where
  built :=
    (roomWithin_createNetwork holds idle opened positive).networks.1
  held := (roomWithin_createNetwork holds idle opened positive).networks.2
  sent frame sent type := by
    have hosted := sendsHosted_output holds _ frame sent
    have sync : frame.type = .syncNetwork := by
      unfold Machine.output at sent
      rw [next_createNetwork env config idle opened,
        ← mem_sentFrames] at sent
      change frame ∈ sentFrames (answer _ _).effects at sent
      rw [sentFrames_answer] at sent
      exact type_of_mem_updateNodes sent
    exact
      within_of_body (hosted.2 sync).2
        (roomWithin_createNetwork holds idle opened positive).networks.2
  answered query := absurd query nofun

/-! ### Runs -/

/--
From the moment a room is created, and whatever frames and ticks come, every
network that its host builds, holds, sends or answers is within the announced
size exactly when every console that is taken in anew finds the room not
full.
-/
theorem eachStep_showsWithin_iff {mtu : UInt32} {system : System}
    (reachable : machine.Reachable (initial mtu) system)
    (idle : system.phase = .idle)
    (opened : system.control.state = .accessPoint) (env : Env)
    {config : CreateNetworkConfig}
    (positive : 1 ≤ config.networkConfig.nodeCountMax)
    {inputs : List (Env × Event)}
    (during : ∀ input ∈ inputs, input.2.DuringRoom) :
    machine.EachStep ShowsWithin system
        ((env, .command (.createNetwork config)) :: inputs) ↔
      machine.EachStep JoinsWithin system
        ((env, .command (.createNetwork config)) :: inputs) := by
  have holds := roomInvariant_of_reachable reachable
  have shows :
      system.ShowsWithin (env, .command (.createNetwork config)) :=
    showsWithin_createNetwork holds idle opened positive
  have joins :
      system.JoinsWithin (env, .command (.createNetwork config)) :=
    fun _ _ admitted => absurd admitted.symm (Option.some_ne_none _)
  let invariant : System → Prop := fun system => system.control.RoomWithin
  have created :
      invariant
        (machine.next system (env, .command (.createNetwork config))) :=
    roomWithin_createNetwork holds idle opened positive
  have keeps (system : System) (input : Env × Event)
      (holds : invariant system) (during : input.2.DuringRoom)
      (joins : system.JoinsWithin input) :
      invariant (machine.next system input) :=
    (roomWithin_next_iff holds during).mpr joins
  have exact (system : System) (input : Env × Event)
      (holds : invariant system) (during : input.2.DuringRoom) :
      system.ShowsWithin input ↔ system.JoinsWithin input :=
    showsWithin_iff holds during
  show (_ ∧ _) ↔ (_ ∧ _)
  rw [and_iff_right shows, and_iff_right joins]
  exact Machine.eachStep_iff_eachStep keeps exact created during

/-! ### A room for two -/

/-- The configuration of a room for two consoles. -/
def pairConfig : CreateNetworkConfig where
  securityConfig := ⟨0⟩
  userConfig := ⟨fun _ => 0⟩
  networkConfig := ⟨⟨0, fun _ => 0, 0, fun _ => 0⟩, 0, 2, 0⟩

/-- The system after a game initialized LDN and opened the role of a host. -/
def openedSystem : System :=
  machine.run (initial 1400)
    [(Env.at 0, .command .initializeLdn),
      (Env.at 0, .command .openAccessPoint)]

theorem openedSystem_reachable :
    machine.Reachable (initial 1400) openedSystem :=
  ⟨_, rfl⟩

/-- The host of a room for two. -/
def pairSystem : System :=
  machine.next openedSystem (Env.at 0, .command (.createNetwork pairConfig))

theorem pairSystem_state :
    pairSystem.control.state = .accessPointCreated :=
  rfl

/-- One guest is within the size of the room. -/
theorem one_guest_shown_within :
    machine.EachStep ShowsWithin openedSystem
      ((Env.at 0, .command (.createNetwork pairConfig)) ::
        joining 0x0A0D0003) := by
  apply
    (eachStep_showsWithin_iff openedSystem_reachable rfl rfl (Env.at 0)
      (by decide) (joining_duringRoom 0x0A0D0003)).mpr
  have room :
      1 + pairSystem.control.stationCount <
        pairSystem.control.networkInfo.ldn.nodeCountMax.toNat := by
    decide
  refine ⟨?_, fun _ _ _ _ => room, ?_, trivial⟩
  · exact fun _ _ admitted => absurd admitted.symm (Option.some_ne_none _)
  · intro _ _ _ _
    change
      1 + (machine.next pairSystem _).control.stationCount <
        (machine.next pairSystem _).control.networkInfo.ldn.nodeCountMax.toNat
    rw [next_scan_control 0x0A0D0003 pairSystem_state]
    exact room

/-- The room after whatever happened in it. -/
theorem pairSystem_room (inputs : List (Env × Event)) :
    (machine.run pairSystem inputs).control.RoomInvariant := by
  apply roomInvariant_of_reachable
  exact
    ⟨[(Env.at 0, .command .initializeLdn),
        (Env.at 0, .command .openAccessPoint),
        (Env.at 0, .command (.createNetwork pairConfig))] ++ inputs,
      Machine.run_append machine (initial 1400) _ inputs⟩

/-- Three consoles meet in a room for two. -/
theorem two_guests_exceed :
    ¬ machine.EachStep ShowsWithin openedSystem
      ((Env.at 0, .command (.createNetwork pairConfig)) ::
        (joining 0x0A0D0003 ++ joining 0x0A0D0004)) := by
  rintro ⟨-, shows⟩
  have held :=
    ((Machine.eachStep_append machine ShowsWithin pairSystem _ _).mp
      shows).2.2.1.held
  change
    (machine.run (machine.run pairSystem (joining 0x0A0D0003))
      (joining 0x0A0D0004)).control.networkInfo.Within at held
  have first : pairSystem.control.connectSlot 0x0A0D0003 = some 0 := rfl
  have taken := takenIn_joining pairSystem_state first
  have new : pairSystem.control.findStationByIp 0x0A0D0003 = none := rfl
  have one := taken.activeSlots_length first
  rw [if_pos new] at one
  have during (srcIp : UInt32) := joining_duringRoom srcIp
  have room := sameRoom_run (during 0x0A0D0003) pairSystem_state
  generalize guest :
    machine.run pairSystem (joining 0x0A0D0003) = visited
      at held taken one room
  rcases taken with ⟨node, stations⟩
  have unknown : visited.control.findStationByIp 0x0A0D0004 = none := by
    unfold findStationByIp
    rw [stations]
    rfl
  have second : visited.control.connectSlot 0x0A0D0004 = some 1 := by
    unfold connectSlot stationCount findFreeNodeId
    rw [unknown, stations]
    rfl
  have two :=
    (takenIn_joining room.hosting second).activeSlots_length second
  rw [if_pos unknown, one] at two
  have again := sameRoom_run (during 0x0A0D0004) room.hosting
  have holds :
      (machine.run visited (joining 0x0A0D0004)).control.RoomInvariant := by
    rw [← guest, ← Machine.run_append]
    exact pairSystem_room _
  have count := (holds.advertises again.hosting).nodeCount
  have within := UInt8.le_iff_toNat_le.mp held
  rw [count, two, again.nodeCountMax, room.nodeCountMax] at within
  exact absurd within (by decide)

end System

end SlpClient.Ldn
