import SlpClient.Ldn.ScanTable

/-!
# The results of `Scan`

A call of `Scan` empties the table, polls ten times at most, and then hands
out the stored networks that match the filter.  Everything it returns was
heard during the call, from another console, and meets the filter.  The table
has eight places and is filled before the whole filter is applied, so a room
is found exactly when its BSSID is among the first eight that answered with
the local communication id of the scan, and its last such answer matches.
-/

namespace SlpClient.Ldn

open SlpClient.Lib

namespace LdnControl

/-! ## Collecting -/

/-- The networks that the collecting loop hands out. -/
theorem collectScan_networks (control : LdnControl) (filter : ScanFilter)
    (capacity : Nat) (indices : List (Fin 8)) (count : Nat) :
    (control.collectScan filter capacity indices count).1 =
      (((indices.takeWhile fun index =>
        index.val < control.scanResultCount.toNat).map
          control.scanResults).filter (matchesFilter filter)).take
            (capacity - count) := by
  induction indices generalizing count with
  | nil => exact List.take_nil.symm
  | cons index rest induction =>
      unfold collectScan
      by_cases stored : index.val < control.scanResultCount.toNat
      · rw [List.takeWhile_cons_of_pos (by simpa using stored),
          List.map_cons]
        by_cases room : count < capacity
        · rw [if_pos ⟨stored, room⟩]
          dsimp only
          cases found :
              matchesFilter filter (control.scanResults index) with
          | false =>
              rw [if_neg Bool.false_ne_true,
                List.filter_cons_of_neg (by simp [found])]
              exact induction count
          | true =>
              have more : capacity - count = capacity - (count + 1) + 1 := by
                omega
              rw [if_pos rfl, List.filter_cons_of_pos found, more,
                List.take_succ_cons, ← induction (count + 1)]
        · have full : capacity - count = 0 := by
            omega
          rw [if_neg fun both => room both.2, full, List.take_zero]
      · rw [if_neg fun both => stored both.1,
          List.takeWhile_cons_of_neg (by simpa using stored)]
        exact List.take_nil.symm

/-- The stored networks that match, as far as there is room. -/
theorem collectScan_table (control : LdnControl) (filter : ScanFilter)
    (capacity : Nat) :
    (control.collectScan filter capacity (List.finRange 8) 0).1 =
      (control.scanView.table.filter (matchesFilter filter)).take
        capacity := by
  rw [collectScan_networks, KeyedTable.takeWhile_finRange]
  rfl

/-- The positions of the output buffer that are written, in order. -/
def scanWrites (effects : List Effect) : List Nat :=
  effects.filterMap fun
    | .access (.scanOut _) index _ => some index
    | _ => none

theorem scanWrites_append (first second : List Effect) :
    scanWrites (first ++ second) = scanWrites first ++ scanWrites second :=
  List.filterMap_append ..

/-- Every network that is handed out is written at the next position. -/
theorem scanWrites_collectScan (control : LdnControl) (filter : ScanFilter)
    (capacity : Nat) (indices : List (Fin 8)) (count : Nat) :
    scanWrites (control.collectScan filter capacity indices count).2 =
      List.range' count
        (control.collectScan filter capacity indices count).1.length := by
  induction indices generalizing count with
  | nil => rfl
  | cons index rest induction =>
      have looked :
          scanWrites
              (.access .scanResults index.val 1 ::
                ssidAccesses filter (control.scanResults index)) =
            [] := by
        unfold ssidAccesses
        split <;> rfl
      unfold collectScan
      split
      · dsimp only
        split
        · rw [scanWrites_append, looked, List.nil_append, List.length_cons,
            List.range'_succ, ← induction (count + 1)]
          rfl
        · rw [scanWrites_append, looked, List.nil_append]
          exact induction count
      · rfl

/-- Collecting is no reply. -/
theorem reply_not_mem_collectScan (control : LdnControl)
    (filter : ScanFilter) (capacity : Nat) (indices : List (Fin 8))
    (count : Nat) (reply : Reply) :
    Effect.reply reply ∉
      (control.collectScan filter capacity indices count).2 := by
  induction indices generalizing count with
  | nil => exact List.not_mem_nil
  | cons index rest induction =>
      have looked :
          Effect.reply reply ∉
            .access .scanResults index.val 1 ::
              ssidAccesses filter (control.scanResults index) := by
        unfold ssidAccesses
        split <;> simp
      unfold collectScan
      split
      · dsimp only
        split
        · rw [List.mem_append, not_or]
          refine ⟨looked, ?_⟩
          rw [List.mem_cons, not_or]
          exact ⟨nofun, induction (count + 1)⟩
        · rw [List.mem_append, not_or]
          exact ⟨looked, induction count⟩
      · exact List.not_mem_nil

end LdnControl

/-- The conditions that a scan filter enables, with all bytes in bounds. -/
structure ScanFilter.Meets (filter : ScanFilter) (info : NetworkInfo) :
    Prop where
  localCommunicationId :
    filter.flag &&& 1 ≠ 0 →
      filter.networkId.intentId.localCommunicationId =
        info.networkId.intentId.localCommunicationId
  sessionId :
    filter.flag &&& 2 ≠ 0 →
      filter.networkId.sessionId = info.networkId.sessionId
  networkType :
    filter.flag &&& 4 ≠ 0 →
      filter.networkType = info.common.networkType.toUInt32
  ssid :
    filter.flag &&& 16 ≠ 0 →
      filter.ssid.length = info.common.ssid.length ∧
        ∀ index < filter.ssid.length.toNat,
          ∃ inside : index < 33,
            filter.ssid.raw ⟨index, inside⟩ =
              info.common.ssid.raw ⟨index, inside⟩
  sceneId :
    filter.flag &&& 32 ≠ 0 →
      filter.networkId.intentId.sceneId = info.networkId.intentId.sceneId

/-- A network that the collecting loop lets pass meets the filter. -/
theorem LdnControl.meets_of_matchesFilter {filter : ScanFilter}
    {info : NetworkInfo} (fits : filter.ssid.length.toNat ≤ 32)
    (found : matchesFilter filter info = true) : filter.Meets info := by
  unfold matchesFilter at found
  simp only [Bool.and_eq_true, Bool.or_eq_true, beq_iff_eq] at found
  rcases found with ⟨⟨⟨⟨lcid, session⟩, type⟩, ssid⟩, scene⟩
  refine
    ⟨lcid.resolve_left, session.resolve_left, type.resolve_left, ?_,
      scene.resolve_left⟩
  intro enabled
  rcases ssid.resolve_left enabled with ⟨length, bytes⟩
  refine ⟨length, ?_⟩
  intro index inside
  refine ⟨by omega, ?_⟩
  have same :=
    List.all_eq_true.mp bytes ⟨index, by omega⟩ (List.mem_finRange _)
  simpa [not_le.mpr inside] using same

namespace System

/-- The step of the IPC thread in which `Scan` returns. -/
theorem ipcStep_returns {filter : ScanFilter} {capacity : Nat}
    {system : System} {env : Env} {networks : List NetworkInfo}
    (position : InScan filter capacity system.phase)
    (returned :
      Effect.reply (.scan networks) ∈ (system.ipcStep env).2) :
    networks =
        (system.control.collectScan filter capacity (List.finRange 8)
          0).1 ∧
      LdnControl.scanWrites (system.ipcStep env).2 =
        List.range networks.length := by
  unfold ipcStep at returned ⊢
  cases located : system.phase with
  | scanBroadcast other bound =>
      rw [located] at returned
      exact (LdnControl.reply_not_mem_sendFrame _ _ _ _ _ _ returned).elim
  | scanWait other bound iteration lastCount stable =>
      rw [located] at returned
      change Effect.reply _ ∈ Step.effects (ite _ _ _) at returned
      split at returned
      · exact
          (LdnControl.reply_not_mem_sendFrame _ _ _ _ _ _ returned).elim
      · exact absurd returned List.not_mem_nil
  | scanPoll other bound iteration lastCount stable =>
      rw [located] at returned
      simp [enter] at returned
  | scanCollect other bound =>
      rw [located] at position returned
      rcases position with ⟨rfl, rfl⟩
      have quiet :=
        system.control.reply_not_mem_collectScan other bound
          (List.finRange 8) 0 (.scan networks)
      have same :
          networks =
            (system.control.collectScan other bound (List.finRange 8)
              0).1 := by
        simpa [enter, LdnControl.scanCollect, LdnControl.answer, quiet]
          using returned
      refine ⟨same, ?_⟩
      rw [same, List.range_eq_range',
        ← LdnControl.scanWrites_collectScan]
      show
        LdnControl.scanWrites (([.lock] ++ _ ++ [.unlock]) ++ [.reply _]) =
          _
      simp only [LdnControl.scanWrites_append]
      exact (List.append_nil _).trans (List.append_nil _)
  | _ =>
      rw [located] at position
      exact position.elim

/-! ## Progress -/

/-- How many steps the IPC thread takes before it collects, at most. -/
def pollsLeft : IpcPhase → Nat
  | .scanBroadcast .. => 21
  | .scanWait _ _ iteration _ _ => 2 * (9 - iteration) + 2
  | .scanPoll _ _ iteration _ _ => 2 * (9 - iteration) + 1
  | _ => 0

/-- A poll that does not collect next begins a later iteration. -/
theorem pollsLeft_afterScanPoll (filter : ScanFilter)
    (capacity iteration : Nat) (lastCount current : UInt16)
    (stable : Nat) :
    pollsLeft
        (afterScanPoll filter capacity iteration lastCount current
          stable) <
      2 * (9 - iteration) + 1 := by
  unfold afterScanPoll
  dsimp only
  split
  · exact Nat.succ_pos _
  · split
    · show 2 * (9 - (iteration + 1)) + 2 < _
      omega
    · exact Nat.succ_pos _

/-- Inside of `Scan` every step collects or comes closer to it. -/
theorem scan_progress {filter : ScanFilter} {capacity : Nat}
    (system : System) (input : Env × Event)
    (position : InScan filter capacity system.phase) :
    (input.2 = .ipc ∧ system.phase = .scanCollect filter capacity) ∨
      InScan filter capacity (machine.next system input).phase ∧
        pollsLeft (machine.next system input).phase +
            (input.2 == .ipc).toNat ≤
          pollsLeft system.phase := by
  rcases input with ⟨env, event⟩
  by_cases ipc : event = .ipc
  · subst ipc
    have closer {phase : IpcPhase}
        (next : (system.ipcStep env).1.phase = phase)
        (inside : InScan filter capacity phase)
        (lower : pollsLeft phase < pollsLeft system.phase) :
        InScan filter capacity (system.ipcStep env).1.phase ∧
          pollsLeft (system.ipcStep env).1.phase + 1 ≤
            pollsLeft system.phase := by
      rw [next]
      exact ⟨inside, lower⟩
    cases located : system.phase with
    | scanBroadcast other bound =>
        have next :
            (system.ipcStep env).1.phase =
              .scanWait other bound 0 0 0 := by
          unfold ipcStep
          rw [located]
          rfl
        rw [located] at position closer
        exact .inr (closer next position (Nat.lt_succ_self 20))
    | scanWait other bound iteration lastCount stable =>
        have next :
            (system.ipcStep env).1.phase =
              .scanPoll other bound iteration lastCount stable := by
          unfold ipcStep
          rw [located]
          rfl
        rw [located] at position closer
        exact .inr (closer next position (Nat.lt_succ_self _))
    | scanPoll other bound iteration lastCount stable =>
        have next :
            (system.ipcStep env).1.phase =
              afterScanPoll other bound iteration lastCount
                system.control.scanResultCount stable := by
          unfold ipcStep
          rw [located]
          rfl
        rw [located] at position closer
        refine .inr (closer next ?_ (pollsLeft_afterScanPoll ..))
        unfold afterScanPoll
        dsimp only
        split_ifs <;> exact position
    | scanCollect other bound =>
        rw [located] at position
        rcases position with ⟨rfl, rfl⟩
        exact .inl ⟨rfl, rfl⟩
    | _ =>
        rw [located] at position
        exact position.elim
  · right
    have same := next_phase system (env, event) position.busy ipc
    have uncounted : (event == Event.ipc) = false :=
      beq_eq_false_iff_ne.mpr ipc
    rw [same, uncounted]
    exact ⟨position, le_rfl⟩

/-! ## Calls -/

/-- A call of `Scan` that the IPC thread is inside of. -/
structure ScanCall where
  system : System
  env : Env
  filter : ScanFilter
  capacity : Nat
  during : List (Env × Event)
  idle : system.phase = .idle
  underWay :
    machine.EachState Busy
      (machine.next system (env, .command (.scan filter capacity))) during

namespace ScanCall

variable (call : ScanCall)

/-- The system at the beginning of the call. -/
def begun : System :=
  machine.next call.system
    (call.env, .command (.scan call.filter call.capacity))

/-- The system at the end of the call. -/
def last : System :=
  machine.run call.begun call.during

/-- The address of this console. -/
def own : UInt32 :=
  call.system.control.ipv4Address

/-- The answers of other consoles that were handled during the call. -/
def answers : List NetworkInfo :=
  call.during.filterMap fun input => input.2.scanAnswer call.own

/-- The call returns these networks in the next step of the IPC thread. -/
def Returns (env : Env) (networks : List NetworkInfo) : Prop :=
  Effect.reply (.scan networks) ∈ machine.output call.last (env, .ipc)

/-- The first section of the call. -/
theorem begun_eq :
    call.begun =
      ⟨call.system.control.scanBegin call.filter,
        .scanBroadcast call.filter (min call.capacity 65535)⟩ := by
  have busy : call.begun.Busy := call.underWay.first
  unfold begun Machine.next at busy ⊢
  rw [next_command call.env _ call.idle] at busy ⊢
  unfold commandStep at busy ⊢
  dsimp only at busy ⊢
  split at busy
  · exact absurd rfl busy
  · rename_i allowed
    rw [if_neg allowed]
    rfl

/-- The call has emptied the table. -/
theorem scanning_begun :
    Scanning call.filter (min call.capacity 65535) call.own []
      call.begun := by
  rw [begun_eq]
  exact ⟨⟨rfl, rfl⟩, ⟨rfl, rfl, Nat.zero_le 8, rfl⟩⟩

/-- During the call the table holds what was heard. -/
theorem scanning :
    Scanning call.filter (min call.capacity 65535) call.own call.answers
      call.last := by
  have keeps (heard : List NetworkInfo) (system : System)
      (input : Env × Event)
      (holds :
        Scanning call.filter (min call.capacity 65535) call.own heard
          system)
      (busy : (machine.next system input).Busy) :
      Scanning call.filter (min call.capacity 65535) call.own
        (heard ++ (input.2.scanAnswer call.own).toList)
        (machine.next system input) :=
    scanning_next holds input busy
  exact
    Machine.noted_invariant keeps call.scanning_begun
      call.underWay.eachStep

/-- The networks in the table at the end of the call. -/
def table : List NetworkInfo :=
  KeyedTable.stored NetworkInfo.bssid 8
    (call.answers.filter (passesLcid (scanLcid call.filter)))

/-- What the call returns, and what it writes. -/
theorem returns_eq {env : Env} {networks : List NetworkInfo}
    (returned : call.Returns env networks) :
    networks =
        (call.table.filter (LdnControl.matchesFilter call.filter)).take
          (min call.capacity 65535) ∧
      LdnControl.scanWrites (machine.output call.last (env, .ipc)) =
        List.range networks.length := by
  have view := call.scanning.view
  have collected := ipcStep_returns call.scanning.position returned
  refine ⟨?_, collected.2⟩
  rw [collected.1, LdnControl.collectScan_table, view.table]
  rfl

/-- The collecting step returns. -/
theorem returns_of_collecting (env : Env)
    (collecting :
      call.last.phase =
        .scanCollect call.filter (min call.capacity 65535)) :
    call.Returns env
      ((call.table.filter (LdnControl.matchesFilter call.filter)).take
        (min call.capacity 65535)) := by
  have collected :=
    call.last.control.collectScan_table call.filter
      (min call.capacity 65535)
  rw [call.scanning.view.table] at collected
  show Effect.reply (.scan _) ∈ (call.last.ipcStep env).2
  unfold ipcStep
  rw [collecting]
  show
    Effect.reply (.scan _) ∈
      (LdnControl.scanCollect _ call.filter _).effects
  unfold LdnControl.scanCollect
  dsimp only
  rw [collected]
  exact List.mem_append_right _ (List.mem_singleton.mpr rfl)

/--
Whatever else happens, a call of `Scan` returns within 22 steps of its
thread.
-/
theorem exists_returns {system : System} (env : Env) (filter : ScanFilter)
    (capacity : Nat) (idle : system.phase = .idle)
    (allowed :
      (machine.next system
        (env, .command (.scan filter capacity))).Busy)
    {inputs : List (Env × Event)}
    (enough : 22 ≤ inputs.countP fun input => input.2 == .ipc) :
    ∃ (call : ScanCall) (rest : List (Env × Event)) (last : Env)
      (networks : List NetworkInfo),
      call.system = system ∧ call.env = env ∧ call.filter = filter ∧
        call.capacity = capacity ∧
        inputs = call.during ++ (last, .ipc) :: rest ∧
        call.Returns last networks := by
  let first : ScanCall :=
    ⟨system, env, filter, capacity, [], idle, allowed⟩
  let inside (system : System) : Prop :=
    InScan filter (min capacity 65535) system.phase
  let left (system : System) : Nat :=
    pollsLeft system.phase
  have begins : inside first.begun :=
    first.scanning_begun.position
  have few :
      left first.begun < inputs.countP fun input => input.2 == .ipc := by
    rw [first.begun_eq]
    exact enough
  rcases Machine.exists_last_of_measure
    (fun system input (position : inside system) =>
      scan_progress system input position) begins few with
    ⟨before, ⟨last, event⟩, after, rfl, along, rfl, collecting⟩
  let call : ScanCall :=
    ⟨system, env, filter, capacity, before, idle,
      along.mono fun _ inside => inside.busy⟩
  exact
    ⟨call, after, last, _, rfl, rfl, rfl, rfl, rfl,
      call.returns_of_collecting last collecting⟩

/-! ## Soundness -/

/--
The step handles a scan response whose body is the network, from a source
that is not this console.
-/
def Answers (info : NetworkInfo) (system : System) (input : Env × Event) :
    Prop :=
  ∃ srcIp payload body seq,
    input.2 = .frame srcIp payload ∧
      LdnControl.openedFrame payload = some (.scanResp, body, seq) ∧
      body = NetworkInfo.codec.encode info ∧
      srcIp ≠ system.control.ipv4Address

/--
The networks were heard during the call and meet the filter, no two of them
have the same BSSID, and they are written one after the other, as many as the
buffer and the table have places for.
-/
structure Sound (env : Env) (networks : List NetworkInfo) : Prop where
  heard :
    ∀ info ∈ networks,
      machine.SomeStep (Answers info) call.begun call.during
  filtered : ∀ info ∈ networks, call.filter.Meets info
  distinct : (networks.map NetworkInfo.bssid).Nodup
  written :
    LdnControl.scanWrites (machine.output call.last (env, .ipc)) =
      List.range networks.length
  counted : networks.length ≤ min call.capacity 8

variable {call}

/-- What is in the table was heard. -/
theorem mem_answers_of_mem_table {info : NetworkInfo}
    (member : info ∈ call.table) : info ∈ call.answers := by
  have last := KeyedTable.latest_of_mem_stored 8 member
  exact List.mem_of_mem_filter (KeyedTable.mem_of_latest last).1

/-- What was heard came in a step of the call. -/
theorem someStep_of_mem_answers {info : NetworkInfo}
    (member : info ∈ call.answers) :
    machine.SomeStep (Answers info) call.begun call.during := by
  rcases List.mem_filterMap.mp member with ⟨input, handled, answers⟩
  rcases List.append_of_mem handled with ⟨before, after, split⟩
  have underWay := call.underWay
  rw [split] at underWay
  let earlier : ScanCall :=
    { call with during := before, underWay := underWay.of_append }
  have address := earlier.scanning.view.address
  rcases Event.scanAnswer_eq_some answers with
    ⟨srcIp, payload, body, seq, frame, opened, same, foreign⟩
  refine ⟨before, input, after, split, ?_⟩
  refine ⟨srcIp, payload, body, seq, frame, opened, same, ?_⟩
  intro own
  exact foreign (own.trans address)

/-- Whatever a call of `Scan` returns is sound. -/
theorem sound_of_returns (fits : call.filter.ssid.length.toNat ≤ 32)
    {env : Env} {networks : List NetworkInfo}
    (returned : call.Returns env networks) : call.Sound env networks := by
  rcases call.returns_eq returned with ⟨same, written⟩
  have placed : ∀ info ∈ networks,
      info ∈ call.table ∧
        LdnControl.matchesFilter call.filter info = true := by
    intro info member
    rw [same] at member
    exact List.mem_filter.mp (List.mem_of_mem_take member)
  have part : networks.Sublist call.table := by
    rw [same]
    exact (List.take_sublist ..).trans List.filter_sublist
  refine ⟨?_, ?_, ?_, written, ?_⟩
  · intro info member
    exact
      someStep_of_mem_answers
        (mem_answers_of_mem_table (placed info member).1)
  · intro info member
    exact LdnControl.meets_of_matchesFilter fits (placed info member).2
  · exact (part.map _).nodup (KeyedTable.nodup_stored 8 _)
  · have room : networks.length ≤ min call.capacity 65535 := by
      rw [same]
      exact List.length_take_le ..
    have few : networks.length ≤ 8 :=
      part.length_le.trans (KeyedTable.length_stored_le 8 _)
    exact le_min (room.trans (min_le_left _ _)) few

/-! ## Completeness -/

variable (call) in
/-- The answers with the local communication id of the scan. -/
def accepted : List NetworkInfo :=
  call.answers.filter (passesLcid (scanLcid call.filter))

variable (call) in
/-- The answers that satisfy the whole filter. -/
def matching : List NetworkInfo :=
  call.answers.filter (LdnControl.matchesFilter call.filter)

variable (call) in
/--
Every room with a matching answer is found, if there are at most eight such
rooms and the buffer has a place for each.
-/
def FindsMatching (env : Env) : Prop :=
  (call.matching.map NetworkInfo.bssid).toFinset.card ≤ 8 →
    (call.matching.map NetworkInfo.bssid).toFinset.card ≤ call.capacity →
      ∀ networks, call.Returns env networks →
        ∀ info ∈ call.matching,
          info.bssid ∈ networks.map NetworkInfo.bssid

/-- What the table keeps of the matching answers fits into the buffer. -/
theorem length_matching_le
    (room :
      (call.matching.map NetworkInfo.bssid).toFinset.card ≤
        call.capacity) :
    (call.table.filter (LdnControl.matchesFilter call.filter)).length ≤
      min call.capacity 65535 := by
  have distinct :
      ((call.table.filter (LdnControl.matchesFilter call.filter)).map
        NetworkInfo.bssid).Nodup :=
    (List.filter_sublist.map _).nodup (KeyedTable.nodup_stored 8 _)
  have few :
      (call.table.filter (LdnControl.matchesFilter call.filter)).length ≤
        8 :=
    List.filter_sublist.length_le.trans (KeyedTable.length_stored_le 8 _)
  have covered :
      ((call.table.filter (LdnControl.matchesFilter call.filter)).map
          NetworkInfo.bssid).toFinset ⊆
        (call.matching.map NetworkInfo.bssid).toFinset := by
    intro bssid member
    rw [List.mem_toFinset] at member ⊢
    rcases List.mem_map.mp member with ⟨info, placed, rfl⟩
    rw [List.mem_filter] at placed
    exact
      List.mem_map_of_mem
        (List.mem_filter.mpr
          ⟨mem_answers_of_mem_table placed.1, placed.2⟩)
  have counted := Finset.card_le_card covered
  rw [List.toFinset_card_of_nodup distinct, List.length_map] at counted
  exact le_min (counted.trans room) (few.trans (by decide))

end ScanCall

/-! ### Rooms of two games -/

/-- A room with the BSSID of its host's address, and the scene of a game. -/
def roomOf (host : UInt32 × UInt16) : NetworkInfo :=
  { NetworkInfo.zero with
    networkId := ⟨⟨0, fun _ => 0, host.2, fun _ => 0⟩, ⟨0, 0⟩⟩
    common := { NetworkInfo.zero.common with bssid := fakeMac host.1 } }

/-- The answer of a host to a scan. -/
def roomAnswer (host : UInt32 × UInt16) : Env × Event :=
  (Env.at 0,
    .frame host.1
      (frameBytes .scanResp 1 (NetworkInfo.codec.encode (roomOf host))))

/-- A game looks for rooms with scene 1. -/
def sceneFilter : ScanFilter :=
  ⟨⟨⟨0, fun _ => 0, 1, fun _ => 0⟩, ⟨0, 0⟩⟩, 0, ⟨0, fun _ => 0⟩, 32⟩

/-- The system after a game initialized LDN. -/
def initializedSystem : System :=
  machine.run (initial 1400) [(Env.at 0, .command .initializeLdn)]

/-- The polls of a scan that nobody answers. -/
def polls : List (Env × Event) :=
  List.replicate 21 (Env.at 0, .ipc)

theorem polled :
    machine.EachState Busy
      (machine.next initializedSystem
        (Env.at 0, .command (.scan sceneFilter 8))) polls := by
  decide

theorem polled_phase :
    (machine.run
      (machine.next initializedSystem
        (Env.at 0, .command (.scan sceneFilter 8))) polls).phase =
          .scanCollect sceneFilter 8 := by
  decide

/-- The answers do not move the IPC thread. -/
theorem run_roomAnswers {system : System} (busy : system.Busy)
    (hosts : List (UInt32 × UInt16)) :
    machine.EachState Busy system (hosts.map roomAnswer) ∧
      (machine.run system (hosts.map roomAnswer)).phase =
        system.phase := by
  induction hosts generalizing system with
  | nil => exact ⟨busy, rfl⟩
  | cons host rest induction =>
      have next : (machine.next system (roomAnswer host)).Busy := busy
      have later := induction next
      exact ⟨⟨busy, later.1⟩, later.2⟩

/-- A scan that these hosts answer right before it collects. -/
def answeredScan (hosts : List (UInt32 × UInt16)) : ScanCall where
  system := initializedSystem
  env := Env.at 0
  filter := sceneFilter
  capacity := 8
  during := polls ++ hosts.map roomAnswer
  idle := rfl
  underWay := by
    apply polled.append
    apply And.left
    apply run_roomAnswers
    exact polled.last

theorem answeredScan_last_phase (hosts : List (UInt32 × UInt16)) :
    (answeredScan hosts).last.phase = .scanCollect sceneFilter 8 := by
  have answered := run_roomAnswers polled.last hosts
  rw [← Machine.run_append, polled_phase] at answered
  exact answered.2

/-- What was heard in such a scan. -/
theorem answeredScan_answers {hosts : List (UInt32 × UInt16)}
    (others : hosts.all fun host => host.1 != 0x0A0D2502) :
    (answeredScan hosts).answers = hosts.map roomOf := by
  have own : (answeredScan hosts).own = 0x0A0D2502 := by
    show initializedSystem.control.ipv4Address = 0x0A0D2502
    decide
  have silent :
      polls.filterMap (fun input => input.2.scanAnswer 0x0A0D2502) = [] :=
    rfl
  unfold ScanCall.answers
  rw [own]
  show (polls ++ hosts.map roomAnswer).filterMap _ = _
  rw [List.filterMap_append, silent, List.nil_append, List.filterMap_map,
    ← List.filterMap_eq_map]
  apply List.filterMap_congr
  intro host member
  have other : host.1 ≠ 0x0A0D2502 :=
    bne_iff_ne.mp (List.all_eq_true.mp others host member)
  exact Event.scanAnswer_frameBytes other 1 (roomOf host)

/-- What such a scan returns. -/
theorem answeredScan_returns {hosts : List (UInt32 × UInt16)}
    (others : hosts.all fun host => host.1 != 0x0A0D2502) :
    (answeredScan hosts).Returns (Env.at 0)
      (((KeyedTable.stored NetworkInfo.bssid 8
        ((hosts.map roomOf).filter (passesLcid 0))).filter
          (LdnControl.matchesFilter sceneFilter)).take 8) := by
  have returned :=
    (answeredScan hosts).returns_of_collecting (Env.at 0)
      (answeredScan_last_phase hosts)
  have lcid : scanLcid (answeredScan hosts).filter = 0 := by
    show scanLcid sceneFilter = 0
    decide
  unfold ScanCall.table at returned
  rw [answeredScan_answers others, lcid] at returned
  exact returned

/-- The scan of a game that one room with its scene answers. -/
theorem answeredScan_sound :
    (answeredScan [(0x0A0D0003, 1)]).Returns (Env.at 0)
        [roomOf (0x0A0D0003, 1)] ∧
      (answeredScan [(0x0A0D0003, 1)]).Sound (Env.at 0)
        [roomOf (0x0A0D0003, 1)] := by
  have returned :
      (answeredScan [(0x0A0D0003, 1)]).Returns (Env.at 0)
        [roomOf (0x0A0D0003, 1)] :=
    answeredScan_returns (by decide)
  exact ⟨returned, ScanCall.sound_of_returns (by decide) returned⟩

theorem answeredScan_matching {hosts : List (UInt32 × UInt16)}
    (others : hosts.all fun host => host.1 != 0x0A0D2502) :
    (answeredScan hosts).matching =
      (hosts.map roomOf).filter (LdnControl.matchesFilter sceneFilter) := by
  unfold ScanCall.matching
  rw [answeredScan_answers others]
  rfl

/-- Eight rooms of another game answer before the one that is looked for. -/
def crowdedRelay : List (UInt32 × UInt16) :=
  [(0x0A0D0003, 0), (0x0A0D0004, 0), (0x0A0D0005, 0), (0x0A0D0006, 0),
    (0x0A0D0007, 0), (0x0A0D0008, 0), (0x0A0D0009, 0), (0x0A0D000A, 0),
    (0x0A0D000B, 1)]

/-- A room answers with the scene, and then again with another one. -/
def changedScene : List (UInt32 × UInt16) :=
  [(0x0A0D0003, 1), (0x0A0D0003, 0)]

/-- A scan whose table keeps no matching answer finds nothing. -/
theorem not_findsMatching_answeredScan {hosts : List (UInt32 × UInt16)}
    {info : NetworkInfo} {rest : List NetworkInfo}
    (others : hosts.all fun host => host.1 != 0x0A0D2502)
    (offered :
      (hosts.map roomOf).filter (LdnControl.matchesFilter sceneFilter) =
        info :: rest)
    (few :
      ((info :: rest).map NetworkInfo.bssid).toFinset.card ≤ 8)
    (lost :
      (KeyedTable.stored NetworkInfo.bssid 8
        ((hosts.map roomOf).filter (passesLcid 0))).filter
          (LdnControl.matchesFilter sceneFilter) = []) :
    ¬ (answeredScan hosts).FindsMatching (Env.at 0) := by
  intro finds
  have matching := answeredScan_matching others
  have returned := answeredScan_returns others
  rw [offered] at matching
  rw [lost] at returned
  unfold ScanCall.FindsMatching at finds
  rw [matching] at finds
  exact
    absurd (finds few few [] returned info List.mem_cons_self)
      List.not_mem_nil

end System

end SlpClient.Ldn
