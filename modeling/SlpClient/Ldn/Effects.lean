import SlpClient.Ldn.Tables

/-!
# Watching the effects of a step

A monitor reads the effects of a step from left to right and tracks whether
the thread holds the lock.  It may object to an array access, and it decides
what taking a held lock means: an error, or the end of what the thread does.
Both questions about the effects asked of this system, whether a thread takes
its own lock again and whether every access is in bounds, are monitors; the
lemmas here are about any of them.
-/

namespace SlpClient.Ldn

open SlpClient.Lib
open SlpClient.Net

/-! ## Monitors -/

/-- An observer of effects that accepts at least the accesses in bounds. -/
structure Monitor where
  accessOk : ArrayRef → Nat → Nat → Bool
  /-- The verdict on a thread that takes the lock it holds. -/
  onRelock : Bool
  lenient :
    ∀ array first count,
      first + count ≤ array.size → accessOk array first count = true

/-- Neither acquires nor releases the lock. -/
def Effect.quiet : Effect → Bool
  | .lock => false
  | .unlock => false
  | _ => true

namespace Monitor

variable (monitor : Monitor)

/-- The verdict on one effect apart from the lock. -/
def accepts : Effect → Bool
  | .access array first count => monitor.accessOk array first count
  | _ => true

/-- The verdict on a list of effects, by whether the lock is held before. -/
def passes : Bool → List Effect → Bool
  | _, [] => true
  | held, .lock :: rest =>
      if held then monitor.onRelock else passes true rest
  | _, .unlock :: rest => passes false rest
  | held, .access array first count :: rest =>
      monitor.accessOk array first count && passes held rest
  | held, .send _ :: rest => passes held rest
  | held, .reply _ :: rest => passes held rest

/-- Effects without locking that the monitor accepts. -/
def Calm (effects : List Effect) : Prop :=
  ∀ effect ∈ effects,
    effect.quiet = true ∧ monitor.accepts effect = true

@[simp]
theorem calm_nil : monitor.Calm [] := by
  simp [Calm]

@[simp]
theorem calm_cons (effect : Effect) (rest : List Effect) :
    monitor.Calm (effect :: rest) ↔
      (effect.quiet = true ∧ monitor.accepts effect = true) ∧
        monitor.Calm rest := by
  simp [Calm]

@[simp]
theorem calm_append (first second : List Effect) :
    monitor.Calm (first ++ second) ↔
      monitor.Calm first ∧ monitor.Calm second := by
  simp only [Calm, List.mem_append, or_imp, forall_and]
  tauto

/-- An access in bounds is calm. -/
theorem calm_access (array : ArrayRef) (first count : Nat)
    (inside : first + count ≤ array.size) :
    monitor.Calm [.access array first count] := by
  simpa [Effect.quiet, accepts] using
    monitor.lenient array first count inside

theorem calm_access_cons {array : ArrayRef} {first count : Nat}
    (inside : first + count ≤ array.size) {rest : List Effect}
    (calm : monitor.Calm rest) :
    monitor.Calm (.access array first count :: rest) :=
  (monitor.calm_cons _ _).2
    ⟨⟨rfl, monitor.lenient array first count inside⟩, calm⟩

/-- Effects without locking are judged one by one. -/
theorem passes_append (held : Bool) (quiet rest : List Effect)
    (unlocked : ∀ effect ∈ quiet, effect.quiet = true) :
    monitor.passes held (quiet ++ rest) =
      (quiet.all monitor.accepts && monitor.passes held rest) := by
  induction quiet with
  | nil => simp
  | cons effect tail induction =>
      have tailUnlocked :
          ∀ other ∈ tail, other.quiet = true :=
        fun other member => unlocked other (List.mem_cons_of_mem _ member)
      have remaining := induction tailUnlocked
      have headUnlocked := unlocked effect List.mem_cons_self
      cases effect with
      | lock => simp [Effect.quiet] at headUnlocked
      | unlock => simp [Effect.quiet] at headUnlocked
      | access array first count =>
          simp [passes, accepts, remaining, Bool.and_assoc]
      | send frame => simp [passes, accepts, remaining]
      | reply reply => simp [passes, accepts, remaining]

/-- Calm effects do not matter. -/
theorem passes_calm_append (held : Bool) {calm rest : List Effect}
    (isCalm : monitor.Calm calm) :
    monitor.passes held (calm ++ rest) = monitor.passes held rest := by
  rw [monitor.passes_append held calm rest
    fun effect member => (isCalm effect member).1]
  have accepted : calm.all monitor.accepts = true := by
    rw [List.all_eq_true]
    exact fun effect member => (isCalm effect member).2
  rw [accepted, Bool.true_and]

/-- A section under the lock, taken by a thread that does not hold it. -/
theorem passes_locked (step : Step) (rest : List Effect) :
    monitor.passes false ((locked step).effects ++ rest) =
      monitor.passes true (step.effects ++ .unlock :: rest) := by
  simp [locked, passes]

/-- The section ends: what follows is judged without the lock. -/
@[simp]
theorem passes_unlock (held : Bool) (rest : List Effect) :
    monitor.passes held (.unlock :: rest) = monitor.passes false rest := by
  cases held <;> rfl

@[simp]
theorem passes_reply (held : Bool) (reply : Reply) (rest : List Effect) :
    monitor.passes held (.reply reply :: rest) =
      monitor.passes held rest := by
  cases held <;> rfl

/-- Only the verdict on what follows counts. -/
theorem passes_append_congr (held : Bool) (effects : List Effect)
    {first second : List Effect}
    (same :
      ∀ heldAfter,
        monitor.passes heldAfter first = monitor.passes heldAfter second) :
    monitor.passes held (effects ++ first) =
      monitor.passes held (effects ++ second) := by
  induction effects generalizing held with
  | nil => exact same held
  | cons effect rest induction =>
      cases effect with
      | lock =>
          cases held with
          | true => rfl
          | false => exact induction true
      | unlock => simpa using induction false
      | access array first count =>
          simp [passes, induction held]
      | send frame => simpa [passes] using induction held
      | reply reply => simpa using induction held

/-- A command is judged by its section. -/
theorem passes_answer (step : Step) (reply : Reply) :
    monitor.passes false (LdnControl.answer step reply).effects =
      monitor.passes true (step.effects ++ [.unlock]) := by
  simp only [LdnControl.answer, Step.followedBy_effects]
  rw [monitor.passes_locked]
  refine monitor.passes_append_congr true step.effects fun heldAfter => ?_
  simp

end Monitor

/-! ## Effects of the helpers -/

/-- A datagram sent now to this address comes straight back. -/
def returnsHome (env : Env) (dst : UInt32) : Bool :=
  env.running && env.clientOpen && isLoopback dst

namespace LdnControl

variable (monitor : Monitor)

/-- The membership query of a loopback datagram passes the monitor. -/
def QueryOk (control : LdnControl) (env : Env) (ip : UInt32) : Prop :=
  (control.isKnownSessionPeer env ip).2.all monitor.accepts = true

/-- Searching the node table only reads. -/
theorem searchNodes_quiet (env : Env) (info : NetworkInfo)
    (wanted : NodeInfo → Bool) (first count : Nat) :
    ∀ effect ∈ (searchNodes env info wanted first count).2,
      effect.quiet = true := by
  intro effect member
  rcases access_of_mem_searchNodes member with ⟨entry, rfl⟩
  rfl

theorem isKnownSessionPeer_quiet (control : LdnControl) (env : Env)
    (ip : UInt32) :
    ∀ effect ∈ (control.isKnownSessionPeer env ip).2,
      effect.quiet = true := by
  intro effect member
  rcases access_of_mem_isKnownSessionPeer member with ⟨entry, rfl⟩
  rfl

/-- The public query, by a thread that does not hold the lock. -/
theorem passes_isKnownSessionPeerPublic (control : LdnControl) (env : Env)
    (ip : UInt32) :
    monitor.passes false (control.isKnownSessionPeerPublic env ip).2 =
        true ↔
      control.QueryOk monitor env ip := by
  have quiet := control.isKnownSessionPeer_quiet env ip
  simp only [isKnownSessionPeerPublic, List.cons_append, Monitor.passes,
    Bool.false_eq_true, if_false]
  rw [monitor.passes_append true _ _ quiet]
  simp [QueryOk, Monitor.passes]

/-- What a send does: it fills the buffer, and the datagram may come back. -/
theorem sendFrame_effects (control : LdnControl) (env : Env)
    (dst : UInt32) (type : LanPacketType) (body : List UInt8)
    (fits : body.length ≤ NetworkInfo.codec.size) :
    ∃ calm : List Effect,
      monitor.Calm calm ∧
        (control.sendFrame env dst type body).effects =
          calm ++
            if returnsHome env dst then
              (control.isKnownSessionPeerPublic env dst).2
            else [] := by
  have bound :=
    frameBytes_length_le type (nextSeq control.txSeq) body fits
  have short :
      ¬ (frameBytes type (nextSeq control.txSeq) body).length > 2000 := by
    rw [LanPacketHeader.codec_size, networkInfo_size] at bound
    omega
  have filled :=
    monitor.calm_access .sendBuffer 0
      (frameBytes type (nextSeq control.txSeq) body).length
      (by simpa [ArrayRef.size] using bound)
  unfold sendFrame tunnelSend returnsHome
  cases running : env.running with
  | false => exact ⟨[], by simp, by simp⟩
  | true =>
      refine
        ⟨[.access .sendBuffer 0
            (frameBytes type (nextSeq control.txSeq) body).length,
          .send ⟨dst, type, nextSeq control.txSeq, body⟩], ?_, ?_⟩
      · simpa [Effect.quiet, Monitor.accepts] using filled
      · have filtered : isLanModePort controlPort = false := rfl
        simp only [Frame.bytes, if_true, if_neg short, filtered,
          Bool.not_true, Bool.false_eq_true, if_false, Bool.true_and]
        cases env.clientOpen <;> cases isLoopback dst <;> rfl

/-- A send under the lock: taking it again decides. -/
theorem passes_sendFrame_held (control : LdnControl) (env : Env)
    (dst : UInt32) (type : LanPacketType) (body : List UInt8)
    (fits : body.length ≤ NetworkInfo.codec.size) (rest : List Effect) :
    monitor.passes true
        ((control.sendFrame env dst type body).effects ++ rest) =
      if returnsHome env dst then monitor.onRelock
      else monitor.passes true rest := by
  rcases sendFrame_effects monitor control env dst type body fits with
    ⟨calm, isCalm, effects⟩
  rw [effects, List.append_assoc, monitor.passes_calm_append true isCalm]
  split
  · simp [isKnownSessionPeerPublic, Monitor.passes]
  · rfl

/-- A send without the lock: the query that comes back decides. -/
theorem passes_sendFrame_free (control : LdnControl) (env : Env)
    (dst : UInt32) (type : LanPacketType) (body : List UInt8)
    (fits : body.length ≤ NetworkInfo.codec.size) :
    monitor.passes false (control.sendFrame env dst type body).effects =
        true ↔
      (returnsHome env dst = true → control.QueryOk monitor env dst) := by
  rcases sendFrame_effects monitor control env dst type body fits with
    ⟨calm, isCalm, effects⟩
  rw [effects, monitor.passes_calm_append false isCalm]
  cases home : returnsHome env dst with
  | true => simp [passes_isKnownSessionPeerPublic]
  | false => simp [Monitor.passes]

/-! ## Rebuilding and syncing -/

/-- The station loop writes entries one after another. -/
theorem placeStations_calm (control : LdnControl) (slots : List (Fin 8))
    (nodes : Fin 8 → NodeInfo) (count : Nat)
    (room : count + slots.length ≤ nodeCountMax) :
    monitor.Calm (control.placeStations slots nodes count).2.2 := by
  induction slots generalizing nodes count with
  | nil => simp [placeStations]
  | cons slot rest induction =>
      unfold placeStations
      rw [List.length_cons] at room
      split
      · have tail :=
          induction
            (fun index =>
              if index.val = count then control.stationNode slot
              else nodes index)
            (count + 1) (by omega)
        exact
          monitor.calm_access_cons
            (by simp only [ArrayRef.size]; omega) tail
      · exact induction nodes count (by omega)

/-- A rebuild copies the advertised bytes, which fit. -/
theorem buildNetwork_calm (control : LdnControl)
    (fits : control.advertiseSize.toNat ≤ advertiseDataSizeMax) :
    monitor.Calm control.buildNetwork.2 := by
  have placed :=
    control.placeStations_calm monitor stationSlots
      (fun index : Fin 8 =>
        if index.val = 0 then control.hostNode else NodeInfo.zero)
      1 (by decide)
  have copied :=
    monitor.calm_access .advertiseData 0 control.advertiseSize.toNat
      (by simpa [ArrayRef.size] using fits)
  exact (monitor.calm_append _ _).2 ⟨placed, copied⟩

/-- Some live station lies behind the loopback. -/
def callsHome (control : LdnControl) (env : Env)
    (slots : List (Fin 8)) : Bool :=
  slots.any fun slot =>
    (control.stations slot).live &&
      returnsHome env (control.stations slot).srcIp

/-- The send loop under the lock. -/
theorem passes_syncStations (control : LdnControl) (env : Env)
    (slots : List (Fin 8)) (rest : List Effect) :
    monitor.passes true
        ((control.syncStations env slots).effects ++ rest) =
      if control.callsHome env slots then monitor.onRelock
      else monitor.passes true rest := by
  induction slots generalizing control with
  | nil => rfl
  | cons slot remaining induction =>
      unfold syncStations
      cases live : (control.stations slot).live with
      | false =>
          simpa [callsHome, live] using induction control
      | true =>
          have sameStations :
              (control.sendFrame env (control.stations slot).srcIp
                .syncNetwork
                (NetworkInfo.codec.encode
                  control.networkInfo)).control.stations =
                control.stations := by
            rw [sendFrame_control]
          have fits :
              (NetworkInfo.codec.encode control.networkInfo).length ≤
                NetworkInfo.codec.size :=
            le_of_eq (NetworkInfo.codec.encode_length _)
          simp only [if_true, Step.andThen_effects]
          rw [List.append_assoc,
            passes_sendFrame_held monitor control env _ _ _ fits,
            induction]
          unfold callsHome
          rw [sameStations, List.any_cons, live, Bool.true_and]
          cases returnsHome env (control.stations slot).srcIp <;> rfl

/-- Rebuilding and syncing under the lock. -/
theorem passes_updateNodes (control : LdnControl) (env : Env)
    (fits : control.advertiseSize.toNat ≤ advertiseDataSizeMax)
    (rest : List Effect) :
    monitor.passes true ((control.updateNodes env).effects ++ rest) =
      if control.callsHome env stationSlots then monitor.onRelock
      else monitor.passes true rest := by
  have built := control.buildNetwork_calm monitor fits
  have synced :=
    passes_syncStations monitor
      { control with networkInfo := control.buildNetwork.1 } env
      stationSlots rest
  simp only [updateNodes, Step.after_effects, Step.andThen_effects,
    List.append_nil]
  rw [List.append_assoc, monitor.passes_calm_append true built]
  exact synced

/-- Nothing comes back from peers that are not behind the loopback. -/
theorem callsHome_of_peersAway {control : LdnControl}
    (away : control.tableView.PeersAway) (env : Env)
    (slots : List (Fin 8)) :
    control.callsHome env slots = false := by
  rw [callsHome, List.any_eq_false]
  intro slot _ reached
  simp only [Station.live, returnsHome, Bool.and_eq_true] at reached
  have kept := away.stations slot reached.1.1
  exact Bool.false_ne_true (kept.symm.trans reached.2.2)

/-- The monitor minds no relock, or there is none to come from peers. -/
def Away (control : LdnControl) : Prop :=
  monitor.onRelock = true ∨ control.tableView.PeersAway

/-- What the tables go through, they go through here. -/
theorem Away.keeps {control other : LdnControl}
    (away : control.Away monitor)
    (kept : TableView.Keeps control.tableView other.tableView) :
    other.Away monitor := by
  rcases away with lenient | peers
  · exact .inl lenient
  · exact .inr (kept.away peers)

theorem passes_updateNodes_of_away (control : LdnControl) (env : Env)
    (fits : control.advertiseSize.toNat ≤ advertiseDataSizeMax)
    (away : control.Away monitor) {rest : List Effect}
    (follows : monitor.passes true rest = true) :
    monitor.passes true ((control.updateNodes env).effects ++ rest) =
      true := by
  rw [control.passes_updateNodes monitor env fits]
  rcases away with lenient | peers
  · rw [lenient, follows, ite_self]
  · rw [callsHome_of_peersAway peers, if_neg Bool.false_ne_true]
    exact follows

/-! ## Effects of the frame handlers -/

/-- What a frame needs to pass the monitor. -/
def FrameOk (control : LdnControl) (env : Env) (srcIp : UInt32)
    (type : LanPacketType) (body : List UInt8) (seq : UInt16) : Prop :=
  match type with
  | .scan =>
      control.state = .accessPointCreated →
        returnsHome env srcIp = true → monitor.onRelock = true
  | .syncNetwork =>
      body.length = NetworkInfo.codec.size →
        control.acceptsSync (NetworkInfo.codec.decode body) seq = true →
        control.state = .station →
        (control.confirmSearch env
          (NetworkInfo.codec.decode body)).2.all monitor.accepts = true
  | _ => True

section Handlers

variable
    {monitor}
    {control : LdnControl}
    (bounded : control.tableView.Bounded)
    (env : Env)
    {rest : List Effect}
    (follows : monitor.passes true rest = true)

include bounded follows

theorem passes_handleScan (srcIp : UInt32) :
    monitor.passes true
        ((control.handleScan env srcIp).effects ++ rest) = true ↔
      (control.state = .accessPointCreated →
        returnsHome env srcIp = true → monitor.onRelock = true) := by
  unfold handleScan
  by_cases hosting : control.state = .accessPointCreated
  · rw [if_neg (not_not.2 hosting)]
    have built :=
      (control.recordScanner env.now srcIp).buildNetwork_calm monitor
        bounded.advertiseSize
    dsimp only
    rw [Step.after_effects, List.append_assoc,
      monitor.passes_calm_append true built,
      passes_sendFrame_held monitor _ env srcIp _ _
        (le_of_eq (NetworkInfo.codec.encode_length _))]
    cases returnsHome env srcIp <;> simp [hosting, follows]
  · rw [if_pos hosting]
    simp [hosting, follows]

theorem passes_handleScanResp (srcIp : UInt32) (body : List UInt8) :
    monitor.passes true
        ((control.handleScanResp srcIp body).effects ++ rest) = true := by
  have compared :=
    monitor.calm_access .scanResults 0 control.scanResultCount.toNat
      (by
        have bound := bounded.scanResultCount
        simpa [ArrayRef.size, tableView] using bound)
  have calm :
      monitor.Calm (control.handleScanResp srcIp body).effects := by
    unfold handleScanResp
    split
    · simp
    · rename_i length
      have copied :=
        monitor.calm_access (.body body.length) 0 NetworkInfo.codec.size
          (by simp only [ArrayRef.size]; omega)
      split
      · simp
      · dsimp only
        split
        · exact copied
        · split
          · rename_i index _
            have found :=
              monitor.calm_access .scanResults 0 (index.val + 1)
                (by
                  have inside := index.isLt
                  simp only [ArrayRef.size, maxScanResults]
                  omega)
            exact (monitor.calm_append _ _).2 ⟨copied, found⟩
          · split
            · rename_i room
              have stored :=
                monitor.calm_access .scanResults
                  control.scanResultCount.toNat 1
                  (by simp only [ArrayRef.size]; omega)
              exact
                (monitor.calm_append _ _).2
                  ⟨(monitor.calm_append _ _).2 ⟨copied, compared⟩,
                    stored⟩
            · exact (monitor.calm_append _ _).2 ⟨copied, compared⟩
  rw [monitor.passes_calm_append true calm]
  exact follows

theorem passes_handleConnect (away : control.Away monitor)
    (srcIp : UInt32) (body : List UInt8) :
    monitor.passes true
        ((control.handleConnect env srcIp body).effects ++ rest) =
      true := by
  unfold handleConnect
  split
  · exact follows
  · split
    · exact follows
    · rename_i length
      have copied :=
        monitor.calm_access (.body body.length) 0 NodeInfo.codec.size
          (by simp only [ArrayRef.size]; omega)
      split
      · exact follows
      · rename_i allowed
        dsimp only
        split
        · rw [monitor.passes_calm_append true copied]
          exact follows
        · rename_i slot _
          rw [Step.after_effects, List.append_assoc,
            monitor.passes_calm_append true copied]
          have kept :=
            control.keeps_withStation_connected env srcIp
              (NodeInfo.codec.decode body) slot allowed
          exact
            passes_updateNodes_of_away monitor
              (control.withStation slot _) env bounded.advertiseSize
              (away.keeps monitor kept) follows

omit bounded in
theorem passes_handleRelayHeartbeat (srcIp : UInt32)
    (body : List UInt8) :
    monitor.passes true
        ((control.handleRelayHeartbeat env srcIp body).effects ++ rest) =
      true := by
  unfold handleRelayHeartbeat
  split
  · exact follows
  · rename_i length
    have read :=
      monitor.calm_access (.body body.length) 0
        RelayHeartbeatPayload.codec.size
        (by simp only [ArrayRef.size]; omega)
    split
    · exact follows
    · dsimp only
      split
      · rw [monitor.passes_calm_append true read]
        exact follows
      · split <;>
        · rw [monitor.passes_calm_append true read]
          exact follows

theorem passes_handleRelayBye (away : control.Away monitor)
    (srcIp : UInt32) (body : List UInt8) :
    monitor.passes true
        ((control.handleRelayBye env srcIp body).effects ++ rest) =
      true := by
  unfold handleRelayBye
  split
  · exact follows
  · rename_i length
    have read :=
      monitor.calm_access (.body body.length) 0
        RelayHeartbeatPayload.codec.size
        (by simp only [ArrayRef.size]; omega)
    have reading :=
      (monitor.passes_calm_append true read).trans follows
    dsimp only
    split
    · split <;> exact reading
    · split
      · split
        · exact reading
        · split
          · exact reading
          · rename_i slot _
            rw [Step.after_effects, List.append_assoc,
              monitor.passes_calm_append true read]
            have kept :=
              control.keeps_withStation slot
                (control.stations slot).clear fun active => by
                  simp [Station.clear] at active
            exact
              passes_updateNodes_of_away monitor
                (control.withStation slot _) env bounded.advertiseSize
                (away.keeps monitor kept) follows
      · exact follows

omit bounded in
theorem passes_handleSyncNetwork (body : List UInt8) (seq : UInt16) :
    monitor.passes true
        ((control.handleSyncNetwork env body seq).effects ++ rest) =
        true ↔
      (body.length = NetworkInfo.codec.size →
        control.acceptsSync (NetworkInfo.codec.decode body) seq = true →
        control.state = .station →
        (control.confirmSearch env
          (NetworkInfo.codec.decode body)).2.all monitor.accepts =
            true) := by
  unfold handleSyncNetwork
  by_cases length : body.length = NetworkInfo.codec.size
  · rw [if_neg (not_not.2 length)]
    have read :=
      monitor.calm_access (.body body.length) 0 NetworkInfo.codec.size
        (by simp only [ArrayRef.size]; omega)
    have reading :=
      (monitor.passes_calm_append true read).trans follows
    by_cases elsewhere :
        control.state ≠ .station ∧ control.state ≠ .stationConnected
    · rw [if_pos elsewhere]
      exact
        iff_of_true follows fun _ _ station =>
          (elsewhere.1 station).elim
    · rw [if_neg elsewhere]
      have reads :
          control.state = .station ∨
            control.state = .stationConnected := by
        tauto
      cases stale : control.staleSync seq with
      | true =>
          rw [if_pos rfl]
          refine iff_of_true follows fun _ accepted => ?_
          simp [acceptsSync, stale] at accepted
      | false =>
          rw [if_neg Bool.false_ne_true]
          simp only [noteSyncSeq_joinActive, noteSyncSeq_joinTargetBssid]
          split
          · rename_i foreign
            refine iff_of_true reading fun _ accepted => ?_
            simp [acceptsSync, foreign.1, foreign.2] at accepted
          · rename_i own
            have accepted :
                control.acceptsSync (NetworkInfo.codec.decode body)
                  seq = true := by
              rw [not_and, ne_eq, not_not] at own
              cases active : control.joinActive with
              | false => simp [acceptsSync, reads, stale, active]
              | true => simp [acceptsSync, reads, stale, own active]
            rw [Step.after_effects, List.append_assoc,
              monitor.passes_calm_append true read]
            simp only [length, accepted, forall_true_left, applySync,
              noteSyncSeq_state, noteSyncSeq_confirmSearch]
            have searched :
                monitor.passes true
                    ((control.confirmSearch env
                      (NetworkInfo.codec.decode body)).2 ++ rest) =
                  (control.confirmSearch env
                    (NetworkInfo.codec.decode body)).2.all
                      monitor.accepts := by
              unfold confirmSearch
              rw [monitor.passes_append true _ _
                (searchNodes_quiet env _ _ 0 _), follows, Bool.and_true]
            split
            · rename_i station
              split <;> simp [station, searched]
            · rename_i connected
              simp [connected, follows]
  · rw [if_pos length]
    exact iff_of_true follows fun same => (length same).elim

end Handlers

/-- Taking a datagram apart stays inside the datagram and the buffer. -/
theorem openAccesses_calm (payload : List UInt8) :
    monitor.Calm (openAccesses payload) := by
  unfold openAccesses
  split
  · simp
  · rename_i long
    refine
      monitor.calm_access_cons (by simp only [ArrayRef.size]; omega) ?_
    split
    · simp
    · rename_i header read
      have inside :
          LanPacketHeader.codec.size + header.length.toNat ≤
            payload.length := by
        unfold readHeader at read
        rw [if_neg long] at read
        dsimp only at read
        split_ifs at read with magic short
        cases read
        omega
      refine monitor.calm_access_cons inside ?_
      by_cases packed : header.compressed ≠ 0
      · rw [if_pos packed]
        split
        · simp
        · rename_i body unpacked
          have bound := decompress_length_le unpacked
          exact
            monitor.calm_access .decompressed 0 body.length
              (by simpa [ArrayRef.size] using bound)
      · rw [if_neg packed]
        simp

/-! ## Effects of the steps -/

/-- What a datagram needs to pass the monitor. -/
def DatagramOk (control : LdnControl) (env : Env) (srcIp : UInt32)
    (payload : List UInt8) : Prop :=
  ∀ type body seq, openedFrame payload = some (type, body, seq) →
    control.FrameOk monitor env srcIp type body seq

theorem passes_onControlFrame {control : LdnControl}
    (bounded : control.tableView.Bounded)
    (away : control.Away monitor) (env : Env) (srcIp : UInt32)
    (payload : List UInt8) :
    monitor.passes false
        (control.onControlFrame env srcIp payload).effects = true ↔
      control.DatagramOk monitor env srcIp payload := by
  have opening := openAccesses_calm monitor payload
  have follows : monitor.passes true [.unlock] = true := rfl
  rw [onControlFrame_eq, ← List.append_nil (locked _).effects,
    monitor.passes_locked, Step.after_effects, List.append_assoc,
    monitor.passes_calm_append true opening]
  unfold DatagramOk
  cases opened : openedFrame payload with
  | none => simp [Monitor.passes]
  | some frame =>
      rcases frame with ⟨type, body, seq⟩
      have only
          (property : LanPacketType → List UInt8 → UInt16 → Prop) :
          (∀ type' body' seq',
            some (type, body, seq) = some (type', body', seq') →
              property type' body' seq') ↔ property type body seq := by
        simp
      rw [only]
      cases type with
      | scan => exact passes_handleScan bounded env follows srcIp
      | scanResp =>
          exact
            iff_of_true (passes_handleScanResp bounded follows srcIp body)
              trivial
      | connect =>
          exact
            iff_of_true
              (passes_handleConnect bounded env follows away srcIp body)
              trivial
      | syncNetwork =>
          exact passes_handleSyncNetwork env follows body seq
      | relayHeartbeat =>
          exact
            iff_of_true
              (passes_handleRelayHeartbeat env follows srcIp body) trivial
      | relayBye =>
          exact
            iff_of_true
              (passes_handleRelayBye bounded env follows away srcIp body)
              trivial

/-- What the periodic work needs to pass the monitor. -/
def TickOk (control : LdnControl) (env : Env) : Prop :=
  env.now - control.lastBeacon ≥ relayBeaconIntervalTicks →
    control.joinActive = true →
    returnsHome env control.heartbeatTarget = true →
      monitor.onRelock = true

theorem passes_tick {control : LdnControl}
    (bounded : control.tableView.Bounded)
    (away : control.Away monitor) (env : Env) :
    monitor.passes false (control.tick env).effects = true ↔
      control.TickOk monitor env := by
  have follows : monitor.passes true [.unlock] = true := rfl
  unfold tick
  rw [← List.append_nil (locked _).effects, monitor.passes_locked]
  unfold TickOk
  split
  · rename_i early
    refine iff_of_true follows fun due => ?_
    omega
  · rename_i due
    rw [not_lt] at due
    have nowhere
        (notConnected : control.state ≠ .stationConnected) :
        returnsHome env control.heartbeatTarget = false := by
      have unset : control.heartbeatTarget = 0 := by
        simp [heartbeatTarget, notConnected]
      rw [unset, returnsHome, show isLoopback 0 = false from rfl,
        Bool.and_false]
    split
    · rename_i hosting
      have kept :=
        keeps_reapStations (control.withBeacon env.now) env.now
      refine
        iff_of_true
          (passes_updateNodes_of_away monitor
            ((control.withBeacon env.now).reapStations env.now) env
            bounded.advertiseSize (away.keeps monitor kept) follows)
          fun _ _ home => ?_
      rw [nowhere (by simp [hosting])] at home
      exact (Bool.false_ne_true home).elim
    · split
      · simp only [Step.andThen_effects, List.append_nil]
        unfold sendHeartbeat
        split
        · rename_i target
          have fits :
              ((control.withBeacon env.now).relayPayload
                (control.withBeacon env.now).joinTargetBssid).length ≤
                NetworkInfo.codec.size := by
            simp [relayPayload, ByteCodec.encode_length]
          rw [passes_sendFrame_held monitor _ env _ _ _ fits, follows]
          change
            (if returnsHome env control.heartbeatTarget = true then
              monitor.onRelock else true) = true ↔ _
          cases home : returnsHome env control.heartbeatTarget with
          | false => simp
          | true =>
              rw [if_pos rfl]
              exact
                ⟨fun verdict _ _ _ => verdict,
                  fun ok => ok due target.1 rfl⟩
        · rename_i silent
          refine iff_of_true follows fun _ active home => ?_
          have set : control.heartbeatTarget ≠ 0 := by
            intro unset
            rw [unset, returnsHome, show isLoopback 0 = false from rfl,
              Bool.and_false] at home
            exact Bool.false_ne_true home
          exact (silent ⟨active, set⟩).elim
      · rename_i notStation
        rw [not_or] at notStation
        refine iff_of_true follows fun _ _ home => ?_
        rw [nowhere notStation.2] at home
        exact (Bool.false_ne_true home).elim

/-- The broadcast address does not come back. -/
theorem returnsHome_subnetBroadcast {control : LdnControl}
    (bounded : control.tableView.Bounded) (env : Env) :
    returnsHome env control.subnetBroadcast = false := by
  have lan := isLanAddress_broadcast bounded.address
  have mask : control.subnetMask = 0xFFFF0000 := bounded.mask
  have outside :
      isLoopback control.subnetBroadcast = false := by
    unfold subnetBroadcast
    rw [mask]
    exact not_isLoopback_of_isLanAddress lan
  rw [returnsHome, outside, Bool.and_false]

/-- What a goodbye to the host needs to pass the monitor. -/
def GoodbyeOk (control : LdnControl) (env : Env) : Prop :=
  control.joinActive = true →
    control.networkInfo.ldn.nodeCount > 0 →
    returnsHome env (control.networkInfo.ldn.nodes 0).ipv4Address =
      true →
      monitor.onRelock = true

theorem passes_disconnect (control : LdnControl) (env : Env) :
    monitor.passes false (control.disconnect env).effects = true ↔
      control.GoodbyeOk monitor env := by
  have follows : monitor.passes true [.unlock] = true := rfl
  unfold disconnect
  rw [monitor.passes_answer]
  simp only [Step.andThen_effects, List.append_nil]
  unfold GoodbyeOk
  split
  · rename_i joined
    have fits :
        (control.relayPayload control.joinTargetBssid).length ≤
          NetworkInfo.codec.size := by
      simp [relayPayload, ByteCodec.encode_length]
    rw [passes_sendFrame_held monitor _ env _ _ _ fits, follows]
    cases home :
        returnsHome env
          (control.networkInfo.ldn.nodes 0).ipv4Address with
    | false => simp
    | true =>
        rw [if_pos rfl]
        exact
          ⟨fun verdict _ _ _ => verdict,
            fun ok => ok joined.1 joined.2 rfl⟩
  · rename_i unjoined
    exact
      iff_of_true follows fun active nodes _ =>
        (unjoined ⟨active, nodes⟩).elim

theorem passes_destroyNetwork {control : LdnControl}
    (bounded : control.tableView.Bounded) (env : Env) :
    monitor.passes false (control.destroyNetwork env).effects = true := by
  have follows : monitor.passes true [.unlock] = true := rfl
  unfold destroyNetwork
  rw [monitor.passes_answer]
  simp only [Step.andThen_effects, List.append_nil]
  split
  · have fits :
        (control.relayPayload
          control.networkInfo.common.bssid).length ≤
          NetworkInfo.codec.size := by
      simp [relayPayload, ByteCodec.encode_length]
    rw [passes_sendFrame_held monitor _ env _ _ _ fits,
      returnsHome_subnetBroadcast bounded, if_neg Bool.false_ne_true]
    exact follows
  · exact follows

theorem passes_createNetwork {control : LdnControl}
    (away : control.Away monitor) (env : Env)
    (data : CreateNetworkConfig) :
    monitor.passes false (control.createNetwork env data).effects =
      true := by
  have follows : monitor.passes true [.unlock] = true := rfl
  unfold createNetwork
  split
  · rfl
  · rw [monitor.passes_answer]
    let reset := (control.created env data).resetStations
    have entered :
        (reset.initNodeStateChange.setState
          .accessPointCreated).tableView = reset.tableView :=
      tableView_setState ..
    have kept :=
      ((control.keeps_created env data).trans
        (keeps_resetStations (control.created env data))).trans
        (.of_eq entered)
    have empty :
        (reset.initNodeStateChange.setState
          .accessPointCreated).advertiseSize = 0 :=
      congrArg TableView.advertiseSize entered
    exact
      passes_updateNodes_of_away monitor _ env
        (by rw [empty]; exact Nat.zero_le _) (away.keeps monitor kept)
        follows

/-- The changes that are copied fit into the array. -/
theorem passes_getNetworkInfoLatestUpdate
    (control : LdnControl) (capacity : Nat) :
    monitor.passes false
        (control.getNetworkInfoLatestUpdate capacity).effects =
      true := by
  unfold getNetworkInfoLatestUpdate
  split
  · rfl
  · rename_i tooMany
    have fits := not_lt.1 tooMany
    split
    · rfl
    · have copied :=
        monitor.calm_access_cons
          (show 0 + capacity ≤ ArrayRef.nodeChanges.size by
            simpa [ArrayRef.size] using fits)
          (monitor.calm_access (.latestUpdates capacity) 0 capacity
            (by simp [ArrayRef.size]))
      rw [monitor.passes_answer,
        monitor.passes_calm_append true copied]
      rfl

theorem passes_setAdvertiseData {control : LdnControl}
    (away : control.Away monitor) (env : Env) (data : List UInt8) :
    monitor.passes false (control.setAdvertiseData env data).effects =
      true := by
  have follows : monitor.passes true [.unlock] = true := rfl
  unfold setAdvertiseData
  split
  · rfl
  · rename_i tooLarge
    have fits := not_lt.1 tooLarge
    have copied :=
      monitor.calm_access .advertiseData 0 data.length
        (by simpa [ArrayRef.size] using fits)
    rw [monitor.passes_answer, Step.after_effects, List.append_assoc,
      monitor.passes_calm_append true copied]
    exact
      passes_updateNodes_of_away monitor _ env
        (control.advertised_size_le data fits)
        (away.keeps monitor (control.keeps_advertised data fits)) follows

end LdnControl

/-! ## The verdict on a step -/

namespace System

variable (monitor : Monitor)

/-- What a step of the IPC thread needs to pass the monitor. -/
def IpcOk (system : System) (env : Env) : Prop :=
  match system.phase with
  | .scanCollect filter capacity =>
      (system.control.collectScan filter capacity (List.finRange 8)
        0).2.all monitor.accepts = true
  | .connectSend hostIp _ =>
      returnsHome env hostIp = true →
        system.control.QueryOk monitor env hostIp
  | .connectWait hostIp _ iteration =>
      iteration % 50 = 49 → returnsHome env hostIp = true →
        system.control.QueryOk monitor env hostIp
  | _ => True

/-- What a step needs to pass the monitor. -/
def StepOk (system : System) (input : Env × Event) : Prop :=
  match input.2 with
  | .command command =>
      system.phase = .idle → command = .disconnect →
        system.control.GoodbyeOk monitor input.1
  | .ipc => IpcOk monitor system input.1
  | .frame srcIp payload =>
      system.control.DatagramOk monitor input.1 srcIp payload
  | .tick => system.control.TickOk monitor input.1
  | .knownPeer ip => system.control.QueryOk monitor input.1 ip
  | _ => True

/-- Collecting the results only reads and writes. -/
theorem collectScan_quiet (control : LdnControl) (filter : ScanFilter)
    (capacity : Nat) (indices : List (Fin 8)) (count : Nat) :
    ∀ effect ∈ (control.collectScan filter capacity indices count).2,
      effect.quiet = true := by
  induction indices generalizing count with
  | nil => simp [LdnControl.collectScan]
  | cons index rest induction =>
      have ssid :
          ∀ effect ∈
              LdnControl.ssidAccesses filter (control.scanResults index),
            effect.quiet = true := by
        unfold LdnControl.ssidAccesses
        split <;> simp [Effect.quiet]
      unfold LdnControl.collectScan
      dsimp only
      split
      · split
        · intro effect member
          simp only [List.cons_append, List.mem_cons,
            List.mem_append] at member
          rcases member with rfl | inSsid | rfl | inTail
          · rfl
          · exact ssid effect inSsid
          · rfl
          · exact induction (count + 1) effect inTail
        · intro effect member
          simp only [List.cons_append, List.mem_cons,
            List.mem_append] at member
          rcases member with rfl | inSsid | inTail
          · rfl
          · exact ssid effect inSsid
          · exact induction count effect inTail
      · simp

theorem passes_ipcStep {system : System}
    (bounded : system.control.tableView.Bounded) (env : Env) :
    monitor.passes false (system.ipcStep env).2 = true ↔
      IpcOk monitor system env := by
  unfold ipcStep IpcOk
  have broadcast
      (type : LanPacketType) :
      monitor.passes false
          (system.control.sendFrame env
            system.control.subnetBroadcast type []).effects = true := by
    rw [LdnControl.passes_sendFrame_free monitor _ env _ type []
      (Nat.zero_le _),
      LdnControl.returnsHome_subnetBroadcast bounded]
    simp
  have nodeFits (my : NodeInfo) :
      (NodeInfo.codec.encode my).length ≤ NetworkInfo.codec.size := by
    simp [ByteCodec.encode_length]
  cases system.phase with
  | idle => exact iff_of_true rfl trivial
  | scanBroadcast filter capacity =>
      exact iff_of_true (broadcast .scan) trivial
  | scanWait filter capacity iteration lastCount stable =>
      refine iff_of_true ?_ trivial
      simp only [enter]
      split
      · exact broadcast .scan
      · rfl
  | scanPoll filter capacity iteration lastCount stable =>
      exact iff_of_true rfl trivial
  | scanCollect filter capacity =>
      simp only [enter, LdnControl.scanCollect]
      rw [monitor.passes_answer,
        monitor.passes_append true _ _
          (collectScan_quiet system.control filter capacity _ 0)]
      simp [Monitor.passes]
  | connectSend hostIp my =>
      exact
        LdnControl.passes_sendFrame_free monitor system.control env hostIp
          .connect _ (nodeFits my)
  | connectPoll hostIp my iteration =>
      refine iff_of_true ?_ trivial
      dsimp only
      split <;> rfl
  | connectWait hostIp my iteration =>
      simp only [enter]
      split
      · rename_i due
        rw [LdnControl.passes_sendFrame_free monitor system.control env
          hostIp .connect _ (nodeFits my)]
        exact ⟨fun ok _ => ok, fun ok => ok due⟩
      · rename_i early
        exact iff_of_true rfl fun due => (early due).elim
  | connectTimeout => exact iff_of_true rfl trivial

theorem passes_commandStep {control : LdnControl}
    (bounded : control.tableView.Bounded)
    (away : control.Away monitor) (env : Env) (command : Command) :
    monitor.passes false (commandStep control env command).2 = true ↔
      (command = .disconnect → control.GoodbyeOk monitor env) := by
  have query (reply : Reply) :
      monitor.passes false (control.whenInNetwork reply).effects = true := by
    unfold LdnControl.whenInNetwork
    split <;> rfl
  cases command with
  | disconnect =>
      have goodbye := control.passes_disconnect monitor env
      simpa [commandStep, enter] using goodbye
  | getState => exact iff_of_true rfl (by simp)
  | getNetworkInfo => exact iff_of_true (query _) (by simp)
  | getIpv4Address => exact iff_of_true rfl (by simp)
  | getDisconnectReason => exact iff_of_true rfl (by simp)
  | getSecurityParameter => exact iff_of_true (query _) (by simp)
  | getNetworkConfig => exact iff_of_true (query _) (by simp)
  | attachStateChangeEvent => exact iff_of_true rfl (by simp)
  | getNetworkInfoLatestUpdate capacity =>
      exact
        iff_of_true
          (control.passes_getNetworkInfoLatestUpdate monitor capacity)
          (by simp)
  | scan filter capacity =>
      refine iff_of_true ?_ (by simp)
      simp only [commandStep]
      split <;> rfl
  | openAccessPoint =>
      refine iff_of_true ?_ (by simp)
      simp only [commandStep, enter, LdnControl.openAccessPoint,
        LdnControl.openRole]
      split <;> rfl
  | closeAccessPoint =>
      refine iff_of_true ?_ (by simp)
      simp only [commandStep, enter, LdnControl.closeAccessPoint,
        LdnControl.closeRole]
      split <;> rfl
  | createNetwork data =>
      exact
        iff_of_true
          (LdnControl.passes_createNetwork monitor away env data) (by simp)
  | destroyNetwork =>
      exact
        iff_of_true
          (LdnControl.passes_destroyNetwork monitor bounded env) (by simp)
  | setAdvertiseData data =>
      exact
        iff_of_true
          (LdnControl.passes_setAdvertiseData monitor away env data)
          (by simp)
  | openStation =>
      refine iff_of_true ?_ (by simp)
      simp only [commandStep, enter, LdnControl.openStation,
        LdnControl.openRole]
      split <;> rfl
  | closeStation =>
      refine iff_of_true ?_ (by simp)
      simp only [commandStep, enter, LdnControl.closeStation,
        LdnControl.closeRole]
      split <;> rfl
  | connect dat data =>
      refine iff_of_true ?_ (by simp)
      simp only [commandStep]
      split
      · rfl
      · split <;> rfl
  | initializeLdn => exact iff_of_true rfl (by simp)
  | finalize => exact iff_of_true rfl (by simp)

/-- One step passes the monitor exactly when it meets `StepOk`. -/
theorem passes_output_iff {system : System}
    (bounded : system.control.tableView.Bounded)
    (away : system.control.Away monitor) (input : Env × Event) :
    monitor.passes false (machine.output system input) = true ↔
      StepOk monitor system input := by
  rcases input with ⟨env, event⟩
  cases event with
  | command command =>
      have judged :=
        passes_commandStep monitor bounded away env command
      simp only [Machine.output, machine, step, StepOk]
      cases position : system.phase with
      | idle => simpa using judged
      | _ => exact iff_of_true rfl (by simp)
  | ipc => exact passes_ipcStep monitor bounded env
  | frame srcIp payload =>
      exact
        LdnControl.passes_onControlFrame monitor bounded away env srcIp
          payload
  | tick => exact LdnControl.passes_tick monitor bounded away env
  | knownPeer ip =>
      exact
        LdnControl.passes_isKnownSessionPeerPublic monitor system.control
          env ip
  | enterLocalNetworkModePublic => exact iff_of_true rfl trivial
  | exitLocalNetworkModePublic => exact iff_of_true rfl trivial

end System

end SlpClient.Ldn
