import SlpClient.Ldn.RoomSize
import SlpClient.Ldn.Sessions
import SlpClient.Ldn.StationView

/-!
# The handshake of a join

A guest asks with Connect frames until a sync of the host lists it.  A host
answers exactly the consoles that it knows, from a scan or from its own list,
and has a slot for.  The sync that it answers with confirms the guest, whose
`Connect` then returns success at its next poll.
-/

namespace SlpClient.Ldn

open SlpClient.Lib

/-- An accepted entry inside the searched range is found. -/
theorem searchNodes_of_entry (env : Env) {info : NetworkInfo}
    {wanted : NodeInfo → Bool} {first count : Nat} {place : Fin 8}
    (start : first ≤ place.val) (inside : place.val < first + count)
    (accepted : wanted (info.ldn.nodes place) = true) :
    (searchNodes env info wanted first count).1 = true := by
  induction count generalizing first with
  | zero => exact absurd inside (Nat.not_lt.mpr start)
  | succ count induction =>
      unfold searchNodes
      split
      · rfl
      next refused =>
        rcases Nat.eq_or_lt_of_le start with here | later
        · subst here
          rw [nodeAt, dif_pos place.isLt] at refused
          exact absurd accepted refused
        · exact induction later (by omega)

namespace LdnControl

/-! ## The host -/

/-- A slot in use has its entry in the advertised list. -/
theorem AdvertisesStations.lists {control : LdnControl}
    (advertises : control.AdvertisesStations) {slot : Fin 8}
    (active : slot ∈ control.activeSlots) :
    ∃ place : Fin 8,
      place.val < control.networkInfo.ldn.nodeCount.toNat ∧
        control.networkInfo.ldn.nodes place =
          (control.stations slot).node := by
  rcases List.mem_iff_getElem.mp active with ⟨index, used, rfl⟩
  have room := control.activeSlots_length_le
  have inside : index + 1 < 8 := by omega
  refine ⟨⟨index + 1, inside⟩, ?_, ?_⟩
  · rw [advertises.nodeCount]
    show index + 1 < _
    omega
  · have entry :
        (List.ofFn control.networkInfo.ldn.nodes)[index + 1]? =
          some (control.networkInfo.ldn.nodes ⟨index + 1, inside⟩) := by
      rw [List.getElem?_ofFn, dif_pos inside]
    rw [advertises.nodes, List.cons_append, List.getElem?_cons_succ,
      List.getElem?_append_left (by simpa using used), List.getElem?_map,
      List.getElem?_eq_getElem used, Option.map_some,
      Option.some.injEq] at entry
    exact entry.symm

/-- Every live station is sent what the host holds. -/
theorem exists_sent_syncStations (control : LdnControl) {env : Env}
    (running : env.running = true) {slots : List (Fin 8)} {slot : Fin 8}
    (member : slot ∈ slots) (live : (control.stations slot).live = true) :
    ∃ seq,
      (⟨(control.stations slot).srcIp, .syncNetwork, seq,
          NetworkInfo.codec.encode control.networkInfo⟩ : Frame) ∈
        sentFrames (control.syncStations env slots).effects := by
  induction slots generalizing control with
  | nil => exact absurd member List.not_mem_nil
  | cons first rest induction =>
      unfold syncStations
      split
      · rw [Step.andThen_effects, sentFrames_append, sentFrames_sendFrame,
          if_pos running]
        rcases List.mem_cons.mp member with rfl | later
        · exact
            ⟨_, List.mem_append_left _ (List.mem_singleton_self _)⟩
        · rw [sendFrame_control]
          rcases
              induction
                { control with
                  txSeq :=
                    if env.running then nextSeq control.txSeq
                    else control.txSeq }
                later live with
            ⟨seq, sent⟩
          dsimp only at sent
          exact ⟨seq, List.mem_append_right _ sent⟩
      next dead =>
        rcases List.mem_cons.mp member with rfl | later
        · exact absurd live dead
        · exact induction control later live

/-- Rebuilding the node list tells every live station. -/
theorem exists_sent_updateNodes (control : LdnControl) {env : Env}
    (running : env.running = true) {slot : Fin 8}
    (member : slot ∈ stationSlots)
    (live : (control.stations slot).live = true) :
    ∃ seq,
      (⟨(control.stations slot).srcIp, .syncNetwork, seq,
          NetworkInfo.codec.encode control.buildNetwork.1⟩ : Frame) ∈
        sentFrames (control.updateNodes env).effects := by
  rcases
      exists_sent_syncStations
        { control with networkInfo := control.buildNetwork.1 } running
        member live with
    ⟨seq, sent⟩
  dsimp only at sent
  refine ⟨seq, ?_⟩
  rw [updateNodes, Step.after_effects, Step.andThen_effects,
    sentFrames_append, List.append_nil]
  exact List.mem_append_right _ sent

/-- The host knows this console: it scanned lately, or it is listed. -/
def KnowsConsole (control : LdnControl) (now : Int) (ip : UInt32) : Prop :=
  control.wasRecentScanner now ip = true ∨
    control.findStationByIp ip ≠ none

/-- The host has a slot for this console. -/
def HasSlotFor (control : LdnControl) (ip : UInt32) : Prop :=
  control.findStationByIp ip ≠ none ∨ control.activeSlots.length < 7

/-- A Connect frame finds a slot exactly when there is one. -/
theorem StationsSound.connectSlot_ne_none_iff {control : LdnControl}
    (sound : control.StationsSound) (ip : UInt32) :
    control.connectSlot ip ≠ none ↔ control.HasSlotFor ip := by
  unfold connectSlot HasSlotFor
  cases listed : control.findStationByIp ip with
  | some slot => simp
  | none =>
      rw [sound.stationCount_eq]
      have most : stationCountMax = 7 := rfl
      rw [most]
      dsimp only
      constructor
      · intro found
        refine .inr ?_
        by_contra full
        exact found (if_pos (Nat.not_lt.mp full))
      · rintro (absurdity | room)
        · exact absurd rfl absurdity
        · rw [if_neg (Nat.not_le.mpr room)]
          intro none
          have all := List.find?_eq_none.mp none
          have whole : control.activeSlots = stationSlots := by
            apply List.filter_eq_self.mpr
            intro slot member
            simpa using all slot member
          rw [whole] at room
          exact absurd room (by decide)

/-- A host that answers a Connect frame of this console. -/
structure Welcomes (control : LdnControl) (now : Int) (ip : UInt32) :
    Prop where
  hosting : control.state = .accessPointCreated
  known : control.KnowsConsole now ip
  slot : control.HasSlotFor ip

/-- The host with this console in a slot. -/
def admitting (control : LdnControl) (env : Env) (ip : UInt32)
    (node : NodeInfo) (slot : Fin 8) : LdnControl :=
  control.withStation slot (connectedStation env ip node slot)

/-- The handler of a Connect frame of a known console takes it in. -/
theorem handleConnect_welcomed {control : LdnControl} (env : Env)
    {ip : UInt32} (node : NodeInfo) {slot : Fin 8}
    (hosting : control.state = .accessPointCreated)
    (known : control.KnowsConsole env.now ip)
    (found : control.connectSlot ip = some slot) :
    ∃ accesses,
      control.handleConnect env ip (NodeInfo.codec.encode node) =
        Step.after accesses
          ((control.admitting env ip node slot).updateNodes env) := by
  have length := NodeInfo.codec.encode_length node
  have stranger :
      ¬ (control.wasRecentScanner env.now ip = false ∧
        control.findStationByIp ip = none) := by
    rintro ⟨unheard, unlisted⟩
    rcases known with recent | listed
    · rw [unheard] at recent
      exact absurd recent Bool.false_ne_true
    · exact listed unlisted
  rw [handleConnect, if_neg (not_not.mpr hosting),
    if_neg (not_not.mpr length), if_neg stranger]
  dsimp only
  rw [found, ByteCodec.decode_encode]
  exact ⟨_, rfl⟩

/-- Any other Connect frame changes nothing and gets no answer. -/
theorem handleConnect_refused {control : LdnControl}
    (sound : control.StationsSound) (env : Env) (ip : UInt32)
    (node : NodeInfo) (refused : ¬ control.Welcomes env.now ip) :
    (control.handleConnect env ip (NodeInfo.codec.encode node)).control =
        control ∧
      sentFrames
          (control.handleConnect env ip
            (NodeInfo.codec.encode node)).effects = [] := by
  unfold handleConnect
  split
  · exact ⟨rfl, rfl⟩
  next hosting =>
    split
    · exact ⟨rfl, rfl⟩
    · split
      · exact ⟨rfl, rfl⟩
      next stranger =>
        dsimp only
        split
        · exact ⟨rfl, rfl⟩
        next slot found =>
          refine absurd ⟨not_not.mp hosting, ?_, ?_⟩ refused
          · by_cases recent : control.wasRecentScanner env.now ip = true
            · exact .inl recent
            · exact
                .inr fun unlisted =>
                  stranger ⟨Bool.eq_false_iff.mpr recent, unlisted⟩
          · rw [← sound.connectSlot_ne_none_iff, found]
            exact Option.some_ne_none slot

end LdnControl

/-- This network information lists the console as connected. -/
def NetworkInfo.Lists (info : NetworkInfo) (ip : UInt32) : Prop :=
  ∃ place : Fin 8,
    place.val < info.ldn.nodeCount.toNat ∧
      NodeInfo.connectedAs ip (info.ldn.nodes place) = true

namespace System

open LdnControl

/-- The Connect frame of a console, as the host gets it. -/
def connectArrival (env : Env) (ip : UInt32) (node : NodeInfo)
    (seq : UInt16) : Env × Event :=
  (env, .frame ip (frameBytes .connect seq (NodeInfo.codec.encode node)))

/-- The step answers the console: it is told the network that lists it. -/
structure AnswersConnect (system : System) (input : Env × Event)
    (ip : UInt32) (sync : Frame) : Prop where
  sent : sync ∈ sentFrames (machine.output system input)
  dst : sync.dst = ip
  type : sync.type = .syncNetwork
  body :
    sync.body =
      NetworkInfo.codec.encode
        (machine.next system input).control.networkInfo
  lists : (machine.next system input).control.networkInfo.Lists ip
  sameNetwork :
    (machine.next system input).control.networkInfo.common.bssid =
      system.control.networkInfo.common.bssid

/-- The handler of a Connect frame, inside of the whole step. -/
theorem onControlFrame_connectArrival (control : LdnControl) (env : Env)
    (ip : UInt32) (node : NodeInfo) (seq : UInt16) :
    ∃ accesses,
      sentFrames accesses = [] ∧
        control.onControlFrame env ip
            (frameBytes .connect seq (NodeInfo.codec.encode node)) =
          locked
            (Step.after accesses
              (control.handleConnect env ip
                (NodeInfo.codec.encode node))) := by
  have fits :
      (NodeInfo.codec.encode node).length ≤ NetworkInfo.codec.size := by
    rw [NodeInfo.codec.encode_length, nodeInfo_size, networkInfo_size]
    decide
  exact
    ⟨_, sentFrames_openAccesses _,
      control.onControlFrame_frameBytes env ip .connect seq _ fits⟩

/-- A host that has taken a console in lists it. -/
theorem lists_of_admitting {control : LdnControl} (env : Env)
    {ip : UInt32} (node : NodeInfo) {slot : Fin 8}
    (sound : control.StationsSound)
    (found : control.connectSlot ip = some slot) :
    (control.admitting env ip node slot).buildNetwork.1.Lists ip := by
  have admitted : (control.admitting env ip node slot).StationsSound :=
    sound.admitting found
  have station :
      (control.admitting env ip node slot).stations slot =
        connectedStation env ip node slot :=
    Function.update_self ..
  have active :
      slot ∈ (control.admitting env ip node slot).rebuilt.activeSlots := by
    refine mem_activeSlots.mpr ⟨(connectSlot_some found).1, ?_⟩
    show ((control.admitting env ip node slot).stations slot).active = true
    rw [station]
    rfl
  rcases admitted.advertises_rebuilt.lists active with
    ⟨place, inside, entry⟩
  refine ⟨place, inside, ?_⟩
  have same :
      (control.admitting env ip node slot).buildNetwork.1.ldn.nodes place =
        ((control.admitting env ip node slot).stations slot).node :=
    entry
  rw [same, station]
  exact Bool.and_eq_true_iff.mpr ⟨rfl, beq_self_eq_true ip⟩

section Arrival

variable (system : System) (env : Env) (ip : UInt32) (node : NodeInfo)
  (seq : UInt16)

/-- What a Connect frame does is up to its handler. -/
theorem next_connectArrival :
    machine.next system (connectArrival env ip node seq) =
        ⟨(system.control.handleConnect env ip
          (NodeInfo.codec.encode node)).control, system.phase⟩ ∧
      sentFrames
          (machine.output system (connectArrival env ip node seq)) =
        sentFrames
          (system.control.handleConnect env ip
            (NodeInfo.codec.encode node)).effects := by
  rcases onControlFrame_connectArrival system.control env ip node seq with
    ⟨accesses, silent, handled⟩
  constructor
  · rw [connectArrival, next_frame, handled]
    rfl
  · show sentFrames (system.control.onControlFrame env ip _).effects = _
    rw [handled, locked_effects, Step.after_effects, sentFrames_append,
      sentFrames_cons, sentFrames_append, silent]
    simp [Effect.sent]

variable {system env ip}

/-- A welcome console is answered. -/
theorem exists_answersConnect (sound : system.control.StationsSound)
    (running : env.running = true)
    (welcomes : system.control.Welcomes env.now ip) :
    ∃ sync,
      system.AnswersConnect (connectArrival env ip node seq) ip sync := by
  rcases next_connectArrival system env ip node seq with ⟨next, output⟩
  rcases
      Option.ne_none_iff_exists'.mp
        ((sound.connectSlot_ne_none_iff ip).mpr welcomes.slot) with
    ⟨slot, found⟩
  rcases
      handleConnect_welcomed env node welcomes.hosting welcomes.known
        found with
    ⟨copied, taken⟩
  have station :
      (system.control.admitting env ip node slot).stations slot =
        connectedStation env ip node slot :=
    Function.update_self ..
  have live :
      ((system.control.admitting env ip node slot).stations
        slot).live = true := by
    rw [station]
    rfl
  rcases
      exists_sent_updateNodes (system.control.admitting env ip node slot)
        running (connectSlot_some found).1 live with
    ⟨counter, sent⟩
  rw [station] at sent
  have known :
      (machine.next system
          (connectArrival env ip node seq)).control.networkInfo =
        (system.control.admitting env ip node slot).buildNetwork.1 := by
    rw [next, taken, Step.after_control, updateNodes_control]
    rfl
  refine ⟨⟨ip, .syncNetwork, counter, _⟩, ?_, rfl, rfl, rfl, ?_, ?_⟩
  · rw [known, output, taken, Step.after_effects, sentFrames_append]
    exact List.mem_append_right _ sent
  · rw [known]
    exact lists_of_admitting env node sound found
  · rw [known]
    rfl

end Arrival

/-- Whatever happened before, a Connect frame is answered exactly if this
console hosts, knows the sender and has a slot for it.  The answer goes to the
sender, and is the network information of the room with the sender in it.
Otherwise the frame changes nothing and nothing is sent. -/
theorem connect_answered {mtu : UInt32} {system : System}
    (reachable : machine.Reachable (initial mtu) system) (env : Env)
    (running : env.running = true) (ip : UInt32) (node : NodeInfo)
    (seq : UInt16) :
    (system.control.Welcomes env.now ip →
        ∃ sync,
          system.AnswersConnect (connectArrival env ip node seq) ip
            sync) ∧
      (¬ system.control.Welcomes env.now ip →
        machine.next system (connectArrival env ip node seq) = system ∧
          sentFrames
            (machine.output system (connectArrival env ip node seq)) =
              []) := by
  have sound := (roomInvariant_of_reachable reachable).sound
  constructor
  · exact exists_answersConnect node seq sound running
  · intro refused
    rcases next_connectArrival system env ip node seq with ⟨next, output⟩
    rcases handleConnect_refused sound env ip node refused with
      ⟨same, unsent⟩
    refine ⟨?_, output.trans unsent⟩
    rw [next, same]

theorem hostScanned_reachable :
    machine.Reachable (initial 1400) hostScanned := by
  rcases hostingSystem_reachable with ⟨inputs, hosted⟩
  refine
    ⟨inputs ++ [(Env.at 0, .frame 0x0A0D0003 (frameBytes .scan 1 []))], ?_⟩
  rw [Machine.run_append, hosted]
  rfl

theorem hostScanned_welcomes :
    hostScanned.control.Welcomes 0 0x0A0D0003 := by
  have sound := (roomInvariant_of_reachable hostScanned_reachable).sound
  refine ⟨hostScanned_ready.hosting, .inl hostScanned_ready.recent, ?_⟩
  rw [← sound.connectSlot_ne_none_iff, hostScanned_ready.found]
  exact Option.some_ne_none 0

theorem hostScanned_stranger :
    ¬ hostScanned.control.Welcomes 0 0x0A0D0009 := by
  rw [hostScanned_eq, scannedControl_eq]
  rintro ⟨-, recent | listed, -⟩
  · exact absurd recent (by decide)
  · exact listed rfl

/-- The console that scanned is answered, another one is not. -/
theorem connect_answered_hostScanned :
    (∃ sync,
      hostScanned.AnswersConnect
        (connectArrival (Env.at 0) 0x0A0D0003 guestNode 2) 0x0A0D0003
        sync) ∧
      sentFrames
          (machine.output hostScanned
            (connectArrival (Env.at 0) 0x0A0D0009 guestNode 2)) = [] :=
  ⟨(connect_answered hostScanned_reachable (Env.at 0) rfl 0x0A0D0003
      guestNode 2).1 hostScanned_welcomes,
    ((connect_answered hostScanned_reachable (Env.at 0) rfl 0x0A0D0009
      guestNode 2).2 hostScanned_stranger).2⟩

/-! ## The guest -/

/-- A console inside of `Connect` that is not in yet and polls again. -/
structure AwaitsAnswer (system : System) (bssid : MacAddress)
    (ip : UInt32) : Prop where
  waiting : Waiting bssid system
  early : ¬ PastLastPoll system.phase
  station : system.control.state = .station
  address : system.control.ipv4Address = ip

/-- A sync that lists the waiting console makes it a connected station. -/
theorem AwaitsAnswer.joins {system : System} {bssid : MacAddress}
    {ip : UInt32} (awaits : system.AwaitsAnswer bssid ip) (env : Env)
    (srcIp : UInt32) {payload : List UInt8} {info : NetworkInfo}
    {seq : UInt16} (carried : syncOf payload = some (info, seq))
    (fresh : system.control.staleSync seq = false)
    (same : info.common.bssid = bssid) (lists : info.Lists ip) :
    (machine.next system (env, .frame srcIp payload)).control.state =
        .stationConnected ∧
      (machine.next system
        (env, .frame srcIp payload)).control.networkInfo = info := by
  have joined : system.control.Joined :=
    ⟨awaits.waiting.active, .inl awaits.station⟩
  have accepted : system.control.acceptsSync info seq = true :=
    (joined.acceptsSync_iff info seq).mpr
      ⟨fresh, same.trans awaits.waiting.target.symm⟩
  constructor
  · rcases lists with ⟨place, inside, entry⟩
    have confirmed : (system.control.confirmSearch env info).1 = true := by
      rw [confirmSearch, awaits.address]
      exact
        searchNodes_of_entry env (Nat.zero_le _)
          (by rw [Nat.zero_add]; exact inside) entry
    have view :=
      system.control.joinView_onControlFrame_sync env srcIp payload info seq
        carried
    rw [if_pos accepted, if_pos ⟨awaits.station, confirmed⟩] at view
    exact congrArg JoinView.state view
  · have applied :
        system.appliedBody (env, .frame srcIp payload) =
          some (NetworkInfo.codec.encode info) :=
      appliedBody_of_accepted carried accepted
    have copied := next_networkInfo_of_appliedBody applied
    have decoded := congrArg NetworkInfo.codec.decode copied
    rw [ByteCodec.decode_encode, ByteCodec.decode_encode] at decoded
    exact decoded

/-- How many steps of the IPC thread are left before the next poll. -/
def stepsToPoll : IpcPhase → Nat
  | .connectPoll _ _ _ => 0
  | _ => 1

/-- `Connect` is under way, will poll again, and would find itself in. -/
structure AboutToSucceed (system : System) : Prop where
  position : InConnect system.phase
  early : ¬ PastLastPoll system.phase
  connected : system.control.state = .stationConnected

/-- A step loses the connection, returns success or comes closer to it. -/
theorem AboutToSucceed.next {system : System}
    (about : system.AboutToSucceed) (input : Env × Event) :
    ((machine.next system input).control.state ≠ .stationConnected ∨
        (input.2 = .ipc ∧ Returns system input.1 .success)) ∨
      (machine.next system input).AboutToSucceed ∧
        stepsToPoll (machine.next system input).phase +
            (input.2 == .ipc).toNat ≤
          stepsToPoll system.phase := by
  by_cases connected :
      (machine.next system input).control.state = .stationConnected
  · rcases input with ⟨env, event⟩
    by_cases ipc : event = .ipc
    · subst ipc
      rcases ipcStep_inConnect system env about.position with
        ⟨hostIp, my, located, next, -⟩ |
        ⟨hostIp, my, iteration, located, -, -, -⟩ |
        ⟨hostIp, my, iteration, -, outside, -⟩ |
        ⟨hostIp, my, iteration, located, next, -⟩ | ⟨located, -, -⟩
      · have phase :
            (machine.next system (env, .ipc)).phase =
              .connectPoll hostIp my 0 :=
          next
        refine .inr ⟨⟨?_, ?_, connected⟩, ?_⟩
        · rw [phase]
          trivial
        · rw [phase]
          exact id
        · rw [phase, located]
          exact Nat.le_refl 1
      · exact
          .inl (.inr ⟨rfl, returns_of_connected env located about.connected⟩)
      · exact absurd about.connected outside
      · have soon : ¬ 299 ≤ iteration := by
          have early := about.early
          rw [located] at early
          exact early
        have phase :
            (machine.next system (env, .ipc)).phase =
              .connectPoll hostIp my (iteration + 1) :=
          next.trans (if_pos (by omega))
        refine .inr ⟨⟨?_, ?_, connected⟩, ?_⟩
        · rw [phase]
          trivial
        · rw [phase]
          exact id
        · rw [phase, located]
          exact Nat.le_refl 1
      · have early := about.early
        rw [located] at early
        exact absurd trivial early
    · have busy : system.phase ≠ .idle := by
        intro idle
        have position := about.position
        rw [idle] at position
        exact position
      have same := next_phase system (env, event) busy ipc
      have uncounted : (event == Event.ipc) = false :=
        beq_eq_false_iff_ne.mpr ipc
      refine .inr ⟨⟨?_, ?_, connected⟩, ?_⟩
      · rw [same]
        exact about.position
      · rw [same]
        exact about.early
      · rw [same, uncounted]
        exact Nat.le_refl _
  · exact .inl (.inl connected)

/-- As long as the connection lasts, the next poll returns success. -/
theorem AboutToSucceed.returns {system : System}
    (about : system.AboutToSucceed) {later : List (Env × Event)}
    (lasts :
      machine.EachState
        (fun after => after.control.state = .stationConnected) system later)
    (enough : 2 ≤ later.countP fun input => input.2 == .ipc) :
    ∃ before env after,
      later = before ++ (env, .ipc) :: after ∧
        Returns (machine.run system before) env .success := by
  have few :
      stepsToPoll system.phase <
        later.countP fun input => input.2 == .ipc := by
    have most : stepsToPoll system.phase ≤ 1 := by
      unfold stepsToPoll
      split
      · exact Nat.zero_le 1
      · exact Nat.le_refl 1
    omega
  let left (system : System) : Nat := stepsToPoll system.phase
  let ends (system : System) (input : Env × Event) : Prop :=
    (machine.next system input).control.state ≠ .stationConnected ∨
      (input.2 = .ipc ∧ Returns system input.1 .success)
  have progress :
      ∀ system input, AboutToSucceed system →
        ends system input ∨
          (machine.next system input).AboutToSucceed ∧
            left (machine.next system input) + (input.2 == .ipc).toNat ≤
              left system :=
    fun _ input inside => inside.next input
  rcases Machine.exists_last_of_measure progress about few with
    ⟨before, ⟨env, event⟩, after, rfl, -, lost | ⟨ipc, returned⟩⟩
  · rw [List.append_cons] at lasts
    have kept := lasts.of_append.last
    rw [Machine.run_append] at kept
    exact absurd kept lost
  · dsimp only at ipc
    subst ipc
    exact ⟨before, env, after, rfl, returned⟩

/-- A host answers a Connect frame exactly of a console that it knows and
has a slot for, and the answer makes the console that waits for it a connected
station with the view of the host.  If the connection lasts, the next poll of
its `Connect` returns success. -/
theorem handshake_completes {mtu : UInt32} {host : System}
    (reachable : machine.Reachable (initial mtu) host) (env : Env)
    (running : env.running = true) (ip : UInt32) (node : NodeInfo)
    (seq : UInt16) (welcomes : host.control.Welcomes env.now ip) :
    ∃ sync,
      host.AnswersConnect (connectArrival env ip node seq) ip sync ∧
        ∀ guest : System,
          guest.AwaitsAnswer host.control.networkInfo.common.bssid ip →
          guest.control.staleSync sync.seq = false →
          ∀ guestEnv srcIp later,
            (machine.next guest
                (guestEnv, .frame srcIp sync.bytes)).control.networkInfo =
              (machine.next host
                (connectArrival env ip node seq)).control.networkInfo ∧
            (machine.next guest
                (guestEnv, .frame srcIp sync.bytes)).control.state =
              .stationConnected ∧
            (machine.EachState
                (fun after => after.control.state = .stationConnected)
                (machine.next guest (guestEnv, .frame srcIp sync.bytes))
                later →
              2 ≤ (later.countP fun input => input.2 == .ipc) →
              ∃ before pollEnv after,
                later = before ++ (pollEnv, .ipc) :: after ∧
                  Returns
                    (machine.run
                      (machine.next guest
                        (guestEnv, .frame srcIp sync.bytes))
                      before)
                    pollEnv .success) := by
  have sound := (roomInvariant_of_reachable reachable).sound
  rcases exists_answersConnect node seq sound running welcomes with
    ⟨sync, answers⟩
  refine ⟨sync, answers, ?_⟩
  intro guest awaits fresh guestEnv srcIp later
  have carried :
      syncOf sync.bytes =
        some
          ((machine.next host
            (connectArrival env ip node seq)).control.networkInfo,
            sync.seq) := by
    rw [Frame.bytes, answers.type, answers.body]
    exact syncOf_frameBytes _ _
  rcases
      awaits.joins guestEnv srcIp carried fresh answers.sameNetwork
        answers.lists with
    ⟨connected, view⟩
  have about :
      (machine.next guest
        (guestEnv, .frame srcIp sync.bytes)).AboutToSucceed :=
    ⟨awaits.waiting.position, awaits.early, connected⟩
  exact ⟨view, connected, about.returns⟩

theorem guestJoining_phase :
    guestJoining.phase =
      .connectPoll (firstRoom.ldn.nodes 0).ipv4Address guestNode 0 := by
  rw [guestJoining, guestAsking_eq]
  rfl

theorem guestJoining_awaits :
    guestJoining.AwaitsAnswer
      hostScanned.control.networkInfo.common.bssid 0x0A0D0003 := by
  have phase := guestJoining_phase
  have station : guestJoining.control.state = .station := by
    rw [guestJoining_control]
    exact guestScanned_station
  have target :
      guestJoining.control.joinTargetBssid =
        hostScanned.control.networkInfo.common.bssid := by
    rw [guestJoining_control, hostScanned_eq, scannedControl_eq]
    rfl
  refine ⟨⟨?_, ?_, guestJoining_active, target⟩, ?_, station, ?_⟩
  · rw [phase]
    trivial
  · rw [station]
    decide
  · rw [phase]
    exact id
  · rw [guestJoining_control]
    rfl

/-- Two polls of the guest. -/
def twoPolls : List (Env × Event) :=
  [(guestEnv, .ipc), (guestEnv, .ipc)]

/-- Polling does not end a connection. -/
theorem twoPolls_connected {system : System} {hostIp : UInt32} {my : NodeInfo}
    {iteration : Nat}
    (located : system.phase = .connectPoll hostIp my iteration)
    (connected : system.control.state = .stationConnected) :
    machine.EachState
      (fun after => after.control.state = .stationConnected) system
      twoPolls := by
  have returned :
      machine.next system (guestEnv, .ipc) = ⟨system.control, .idle⟩ := by
    show (system.ipcStep guestEnv).1 = _
    unfold ipcStep
    rw [located]
    dsimp only
    rw [if_pos connected]
    rfl
  refine ⟨connected, ?_, ?_⟩
  · rw [returned]
    exact connected
  · rw [returned]
    exact connected

/-- A guest gets into the room of a host that it found. -/
theorem hostScanned_handshake :
    ∃ sync : Frame,
      hostScanned.AnswersConnect
          (connectArrival (Env.at 0) 0x0A0D0003 guestNode 2) 0x0A0D0003
          sync ∧
        (machine.next guestJoining
            (guestEnv, .frame 0x0A0D2502 sync.bytes)).control.networkInfo =
          (machine.next hostScanned
            (connectArrival (Env.at 0) 0x0A0D0003 guestNode
              2)).control.networkInfo ∧
        ∃ before pollEnv after,
          twoPolls = before ++ (pollEnv, .ipc) :: after ∧
            Returns
              (machine.run
                (machine.next guestJoining
                  (guestEnv, .frame 0x0A0D2502 sync.bytes))
                before)
              pollEnv .success := by
  rcases
      handshake_completes hostScanned_reachable (Env.at 0) rfl 0x0A0D0003
        guestNode 2 hostScanned_welcomes with
    ⟨sync, answers, completes⟩
  have fresh : guestJoining.control.staleSync sync.seq = false := by
    have unset : guestScanned.control.relaySyncSeqValid = false := rfl
    rw [guestJoining_control, staleSync]
    simp [connectBegin, unset]
  rcases
      completes guestJoining guestJoining_awaits fresh guestEnv 0x0A0D2502
        twoPolls with
    ⟨view, connected, returns⟩
  have located :
      (machine.next guestJoining
          (guestEnv, .frame 0x0A0D2502 sync.bytes)).phase =
        .connectPoll (firstRoom.ldn.nodes 0).ipv4Address guestNode 0 :=
    guestJoining_phase
  have lasts := twoPolls_connected located connected
  exact ⟨sync, answers, view, returns lasts (Nat.le_refl 2)⟩

end System

end SlpClient.Ldn
