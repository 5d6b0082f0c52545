import SlpClient.Ldn.FrameRoundTrip
import SlpClient.Ldn.JoinState
import SlpClient.Lib.SkipCounter

/-!
# Syncs are applied in send order

A host stamps its frames with a 16-bit counter that skips zero.  Its syncs
reach a station with losses, repetitions and changes of order.  As long as no
sync is too old or too far ahead of the newest one applied, the sequence
filter lets a sync pass exactly when it was sent after that one, however
often the counter wraps.
-/

namespace SlpClient.Ldn

open SlpClient.Lib

/-! ## Stamps -/

/-- The frames that a console hands to the tunnel, in order. -/
def sentBy (host : LdnControl) (calls : List SendCall) : List Frame :=
  (sendMachine.outputs host calls).flatMap sentFrames

/-- The counter of frame number `index`, counted from one. -/
def stampOf (start : UInt16) (index : Nat) : UInt16 :=
  nextSeq^[index] start

theorem nextSeq_toNat (seq : UInt16) :
    (nextSeq seq).toNat = skipStamp 65536 seq.toNat := by
  have bound : seq.toNat < 65536 := seq.toNat_lt
  have sum : (seq + 1).toNat = (seq.toNat + 1) % 65536 := by
    rw [UInt16.toNat_add]
    rfl
  unfold nextSeq skipStamp
  by_cases wraps : seq + 1 = 0
  · have last : seq.toNat = 65535 := by
      rw [wraps, UInt16.toNat_zero] at sum
      omega
    rw [if_pos wraps, wraps, last]
    rfl
  · have positive : (seq + 1).toNat ≠ 0 := by
      intro zero
      exact wraps (UInt16.toNat_inj.mp zero)
    rw [if_neg wraps, sum]
    omega

/-- The stamps run through the counter that skips zero. -/
theorem stampOf_succ_toNat (start : UInt16) (index : Nat) :
    (stampOf start (index + 1)).toNat =
      skipStamp 65536 (start.toNat + index) := by
  induction index with
  | zero => exact nextSeq_toNat start
  | succ index induction =>
      have next :
          stampOf start (index + 1 + 1) =
            nextSeq (stampOf start (index + 1)) :=
        Function.iterate_succ_apply' nextSeq (index + 1) start
      rw [next, nextSeq_toNat, induction]
      unfold skipStamp
      omega

/-- A running console sends one frame for a call, another one nothing. -/
theorem sentBy_cons (host : LdnControl) (call : SendCall)
    (rest : List SendCall) :
    sentBy host (call :: rest) =
      (if call.env.running then
        [⟨call.dst, call.type, nextSeq host.txSeq, call.body⟩]
      else []) ++ sentBy (sendMachine.next host call) rest := by
  rw [← host.sentFrames_sendFrame]
  rfl

theorem sendMachine_next_txSeq (host : LdnControl) (call : SendCall) :
    (sendMachine.next host call).txSeq =
      if call.env.running then nextSeq host.txSeq else host.txSeq := by
  change
    (host.sendFrame call.env call.dst call.type call.body).control.txSeq = _
  rw [LdnControl.sendFrame_control]

/-- Every frame carries the stamp of its number. -/
theorem sentBy_seq
    {host : LdnControl} {calls : List SendCall} {index : Nat}
    {frame : Frame} (sent : (sentBy host calls)[index]? = some frame) :
    frame.seq = stampOf host.txSeq (index + 1) := by
  induction calls generalizing host index with
  | nil => simp [sentBy] at sent
  | cons call rest induction =>
      have counter := sendMachine_next_txSeq host call
      rw [sentBy_cons] at sent
      cases running : call.env.running with
      | false =>
          simp only [running, Bool.false_eq_true, if_false,
            List.nil_append] at sent counter
          rw [induction sent, counter]
      | true =>
          simp only [running, if_true, List.singleton_append] at sent counter
          cases index with
          | zero =>
              simp only [List.getElem?_cons_zero, Option.some.injEq] at sent
              rw [← sent]
              rfl
          | succ index =>
              rw [List.getElem?_cons_succ] at sent
              rw [induction sent, counter]
              rfl

/-! ## The sequence filter -/

/--
When the newest sync let through is number `newest`, the filter drops a sync
inside the window exactly when it was not sent later.
-/
theorem LdnControl.staleSync_stampOf
    {control : LdnControl} {start : UInt16} {newest index : Nat}
    (valid : control.relaySyncSeqValid = true)
    (latest : control.relaySyncSeq = stampOf start (newest + 1))
    (back : newest ≤ index + 254) (ahead : index ≤ newest + 65279) :
    control.staleSync (stampOf start (index + 1)) = true ↔
      index ≤ newest := by
  have stamped : stampOf start (index + 1) ≠ 0 := by
    have next :
        stampOf start (index + 1) = nextSeq (stampOf start index) :=
      Function.iterate_succ_apply' nextSeq index start
    rw [next]
    exact nextSeq_ne_zero _
  have distance :
      (control.relaySyncSeq - stampOf start (index + 1)).toNat =
        stampsBehind 65536 (skipStamp 65536 (start.toNat + newest))
          (skipStamp 65536 (start.toNat + index)) := by
    rw [UInt16.toNat_sub, latest, stampOf_succ_toNat, stampOf_succ_toNat]
    rfl
  have filter :
      control.staleSync (stampOf start (index + 1)) = true ↔
        (control.relaySyncSeq - stampOf start (index + 1)).toNat < 256 := by
    simp only [staleSync, valid, bne_iff_ne, ne_eq, stamped,
      not_false_eq_true, Bool.and_true, Bool.and_eq_true,
      decide_eq_true_eq, true_and, UInt16.lt_iff_toNat_lt]
    rfl
  rw [filter, distance,
    stampsBehind_lt_iff (by omega) (by omega) (by omega) (by omega)]
  omega

/-! ## Arrivals -/

/-- A datagram that arrives, with the number of the frame it repeats. -/
structure NumberedArrival where
  index : Nat
  arrival : Arrival

/-- A station fed with one numbered datagram after another. -/
def syncMachine : Machine LdnControl NumberedArrival (List Effect) where
  step control numbered := frameMachine.step control numbered.arrival

/-- The datagram is a sync that gets copied in. -/
def appliesNumbered (control : LdnControl) (numbered : NumberedArrival) :
    Bool :=
  appliesSync control numbered.arrival

/-- The numbers of the syncs that get applied, in order. -/
def appliedIndices (control : LdnControl)
    (arrivals : List NumberedArrival) : List Nat :=
  (syncMachine.selected appliesNumbered control arrivals).map
    NumberedArrival.index

/-- The datagram is the sync with this number that the host has sent. -/
structure HostSync (host : LdnControl) (calls : List SendCall)
    (numbered : NumberedArrival) (info : NetworkInfo) : Prop where
  counted : 1 ≤ numbered.index
  sent :
    ∃ dst seq,
      (sentBy host calls)[numbered.index - 1]? =
          some
            ⟨dst, .syncNetwork, seq, NetworkInfo.codec.encode info⟩ ∧
        numbered.arrival.payload =
          frameBytes .syncNetwork seq (NetworkInfo.codec.encode info)

/--
Syncs of one host arrive at a station whose sequence filter is unset.  All of
them pass the session gate, and none is more than 254 frames behind or more
than 65279 frames ahead of the newest one applied.
-/
structure SyncStream (host : LdnControl) (calls : List SendCall)
    (control : LdnControl) (arrivals : List NumberedArrival) : Prop where
  station :
    control.state = .station ∨ control.state = .stationConnected
  unset : control.relaySyncSeqValid = false
  sent :
    ∀ numbered ∈ arrivals, ∃ info,
      HostSync host calls numbered info ∧
        (control.joinActive = true →
          info.common.bssid = control.joinTargetBssid)
  window :
    ∀ before numbered after,
      arrivals = before ++ numbered :: after →
        ∀ newest ∈ (appliedIndices control before).max?,
          newest ≤ numbered.index + 254 ∧
            numbered.index ≤ newest + 65279

theorem HostSync.syncOf_payload
    {host : LdnControl} {calls : List SendCall}
    {numbered : NumberedArrival} {info : NetworkInfo}
    (sync : HostSync host calls numbered info) :
    syncOf numbered.arrival.payload =
      some (info, stampOf host.txSeq numbered.index) := by
  rcases sync.sent with ⟨dst, seq, sent, payload⟩
  have stamp : seq = stampOf host.txSeq (numbered.index - 1 + 1) :=
    sentBy_seq sent
  rw [Nat.sub_add_cancel sync.counted] at stamp
  rw [payload, syncOf_frameBytes, stamp]

/-- Copying a sync in leaves the sequence filter alone. -/
theorem LdnControl.applySync_relaySyncSeq
    (control : LdnControl) (env : Env) (info : NetworkInfo) :
    (control.applySync env info).control.relaySyncSeq =
        control.relaySyncSeq ∧
      (control.applySync env info).control.relaySyncSeqValid =
        control.relaySyncSeqValid ∧
      (control.applySync env info).control.networkInfo = info := by
  unfold applySync setState
  split_ifs <;> exact ⟨rfl, rfl, rfl⟩

/-! ## One arrival -/

/-- What a station remembers after it has applied syncs with some numbers. -/
structure Tracks (start : UInt16) (control state : LdnControl)
    (applied : List Nat) : Prop where
  station : state.state = .station ∨ state.state = .stationConnected
  active : state.joinActive = control.joinActive
  target : state.joinTargetBssid = control.joinTargetBssid
  unset : applied = [] → state.relaySyncSeqValid = false
  latest :
    ∀ newest ∈ applied.max?,
      1 ≤ newest ∧ state.relaySyncSeqValid = true ∧
        state.relaySyncSeq = stampOf start newest
  increasing : applied.Pairwise (· < ·)

/-- A number is newer than all of a list. -/
def Newer (applied : List Nat) (index : Nat) : Prop :=
  ∀ newest ∈ applied.max?, newest < index

theorem newer_iff {applied : List Nat} {index : Nat} :
    Newer applied index ↔ ∀ earlier ∈ applied, earlier < index := by
  constructor
  · intro newer earlier member
    cases largest : applied.max? with
    | none =>
        rw [List.max?_eq_none_iff.mp largest] at member
        simp at member
    | some newest =>
        have bound := (List.max?_eq_some_iff.mp largest).2 earlier member
        exact bound.trans_lt (newer newest largest)
  · intro all newest largest
    exact all newest (List.max?_eq_some_iff.mp largest).1

/-- A newer number is the newest one afterwards. -/
theorem Newer.max?_append {applied : List Nat} {index : Nat}
    (newer : Newer applied index) :
    (applied ++ [index]).max? = some index := by
  rw [List.max?_eq_some_iff]
  refine ⟨by simp, ?_⟩
  intro earlier member
  rcases List.mem_append.mp member with old | new
  · exact (newer_iff.mp newer earlier old).le
  · exact (List.mem_singleton.mp new).le

theorem Newer.pairwise_append {applied : List Nat} {index : Nat}
    (newer : Newer applied index)
    (increasing : applied.Pairwise (· < ·)) :
    (applied ++ [index]).Pairwise (· < ·) := by
  rw [List.pairwise_append]
  refine ⟨increasing, List.pairwise_singleton _ _, ?_⟩
  intro earlier member latest new
  rw [List.mem_singleton.mp new]
  exact newer_iff.mp newer earlier member

section OneArrival

variable
    {host control state : LdnControl}
    {calls : List SendCall}
    {numbered : NumberedArrival}
    {info : NetworkInfo}
    {applied : List Nat}

/-- The filter passes a sync of the window exactly when it is newer. -/
theorem Tracks.staleSync_iff
    (tracks : Tracks host.txSeq control state applied)
    (sync : HostSync host calls numbered info)
    (window :
      ∀ newest ∈ applied.max?,
        newest ≤ numbered.index + 254 ∧ numbered.index ≤ newest + 65279) :
    state.staleSync (stampOf host.txSeq numbered.index) = false ↔
      Newer applied numbered.index := by
  have counted := sync.counted
  cases largest : applied.max? with
  | none =>
      have unset := tracks.unset (List.max?_eq_none_iff.mp largest)
      simp [LdnControl.staleSync, unset, Newer, largest]
  | some newest =>
      rcases tracks.latest newest largest with ⟨positive, valid, latest⟩
      rcases window newest largest with ⟨back, ahead⟩
      have latestStamp :
          state.relaySyncSeq = stampOf host.txSeq (newest - 1 + 1) := by
        rw [Nat.sub_add_cancel positive]
        exact latest
      have filter :=
        LdnControl.staleSync_stampOf valid latestStamp
          (show newest - 1 ≤ numbered.index - 1 + 254 by omega)
          (by omega)
      rw [Nat.sub_add_cancel counted] at filter
      have newer :
          Newer applied numbered.index ↔ newest < numbered.index := by
        simp [Newer, largest]
      rw [newer, Bool.eq_false_iff, ne_eq, filter]
      omega

/-- A sync of the joined network is applied when the filter passes it. -/
theorem Tracks.appliesNumbered_iff
    (tracks : Tracks host.txSeq control state applied)
    (sync : HostSync host calls numbered info)
    (gate :
      control.joinActive = true →
        info.common.bssid = control.joinTargetBssid) :
    appliesNumbered state numbered = true ↔
      state.staleSync (stampOf host.txSeq numbered.index) = false := by
  have passes :
      ¬ (state.joinActive = true ∧
        info.common.bssid ≠ state.joinTargetBssid) := by
    rintro ⟨active, other⟩
    rw [tracks.active] at active
    rw [tracks.target] at other
    exact other (gate active)
  simp only [appliesNumbered, appliesSync, sync.syncOf_payload,
    LdnControl.acceptsSync, tracks.station, decide_true, Bool.true_and,
    Bool.and_eq_true, Bool.not_eq_true', Bool.and_eq_false_iff,
    decide_eq_false_iff_not]
  constructor
  · exact And.left
  · intro fresh
    refine ⟨fresh, ?_⟩
    cases active : state.joinActive with
    | false => exact .inl rfl
    | true => exact .inr fun other => passes ⟨active, other⟩

/-- What an arrival leaves behind, applied or dropped. -/
theorem Tracks.next_eq
    (tracks : Tracks host.txSeq control state applied)
    (sync : HostSync host calls numbered info)
    (gate :
      control.joinActive = true →
        info.common.bssid = control.joinTargetBssid) :
    syncMachine.next state numbered =
      if appliesNumbered state numbered then
        ((state.noteSyncSeq
          (stampOf host.txSeq numbered.index)).applySync
            numbered.arrival.env info).control
      else state := by
  have handled :=
    state.onControlFrame_sync_control numbered.arrival.env
      numbered.arrival.srcIp numbered.arrival.payload info _
      sync.syncOf_payload tracks.station
  have applies := tracks.appliesNumbered_iff sync gate
  change
    (state.onControlFrame numbered.arrival.env numbered.arrival.srcIp
      numbered.arrival.payload).control = _
  rw [handled]
  cases stale :
      state.staleSync (stampOf host.txSeq numbered.index) with
  | true =>
      have refused : appliesNumbered state numbered = false := by
        rw [Bool.eq_false_iff, ne_eq, applies, stale]
        exact Bool.true_eq_false_eq_False
      rw [if_pos rfl, refused, if_neg Bool.false_ne_true]
  | false =>
      have passes :
          ¬ (state.joinActive = true ∧
            info.common.bssid ≠ state.joinTargetBssid) := by
        rintro ⟨active, other⟩
        rw [tracks.active] at active
        rw [tracks.target] at other
        exact other (gate active)
      rw [if_neg Bool.false_ne_true, if_neg passes,
        if_pos (applies.mpr stale)]

/-- A newer sync is applied and becomes the newest one. -/
theorem Tracks.newest
    (tracks : Tracks host.txSeq control state applied)
    (sync : HostSync host calls numbered info)
    (gate :
      control.joinActive = true →
        info.common.bssid = control.joinTargetBssid)
    (accepted : appliesNumbered state numbered = true)
    (newer : Newer applied numbered.index) :
    Tracks host.txSeq control (syncMachine.next state numbered)
        (applied ++ [numbered.index]) ∧
      (syncMachine.next state numbered).networkInfo = info := by
  have next := tracks.next_eq sync gate
  rw [if_pos accepted] at next
  let noted := state.noteSyncSeq (stampOf host.txSeq numbered.index)
  have stamped : stampOf host.txSeq numbered.index ≠ 0 := by
    rcases Nat.exists_eq_add_of_le' sync.counted with ⟨index, number⟩
    rw [number, stampOf, Function.iterate_succ_apply']
    exact nextSeq_ne_zero _
  have filter :=
    noted.applySync_relaySyncSeq numbered.arrival.env info
  have view := noted.joinView_applySync numbered.arrival.env info
  have notedView : noted.joinView = state.joinView :=
    state.joinView_noteSyncSeq _
  have seq : noted.relaySyncSeq = stampOf host.txSeq numbered.index := by
    simp [noted, LdnControl.noteSyncSeq, stamped]
  have valid : noted.relaySyncSeqValid = true := by
    simp [noted, LdnControl.noteSyncSeq, stamped]
  rw [next]
  refine ⟨?_, filter.2.2⟩
  constructor
  · have entered := congrArg JoinView.state view
    change (noted.applySync numbered.arrival.env info).control.state =
      (if _ then _ else noted.state) at entered
    rw [entered]
    split
    · exact .inr rfl
    · have same : noted.state = state.state :=
        congrArg JoinView.state notedView
      rw [same]
      exact tracks.station
  · exact
      (congrArg JoinView.active view).trans
        ((congrArg JoinView.active notedView).trans tracks.active)
  · exact
      (congrArg JoinView.target view).trans
        ((congrArg JoinView.target notedView).trans tracks.target)
  · intro empty
    simp at empty
  · intro newest latest
    rw [newer.max?_append, Option.mem_some_iff] at latest
    subst latest
    exact
      ⟨sync.counted, filter.2.1.trans valid, filter.1.trans seq⟩
  · exact newer.pairwise_append tracks.increasing

end OneArrival

/-! ## All arrivals -/

/-- The numbers applied up to an arrival, and that arrival. -/
theorem appliedIndices_append
    (control : LdnControl) (before : List NumberedArrival)
    (numbered : NumberedArrival) :
    appliedIndices control (before ++ [numbered]) =
      appliedIndices control before ++
        if appliesNumbered (syncMachine.run control before) numbered then
          [numbered.index]
        else [] := by
  unfold appliedIndices
  rw [Machine.selected_append, List.map_append]
  simp only [Machine.selected]
  split <;> rfl

section Streams

variable
    {host control : LdnControl}
    {calls : List SendCall}
    {arrivals : List NumberedArrival}
    (stream : SyncStream host calls control arrivals)

include stream

/-- Every arrival is a sync of the host that passes the bssid gate. -/
theorem SyncStream.arrives
    {before after : List NumberedArrival} {numbered : NumberedArrival}
    (split : arrivals = before ++ numbered :: after) :
    ∃ info,
      HostSync host calls numbered info ∧
        (control.joinActive = true →
          info.common.bssid = control.joinTargetBssid) := by
  have arrived : numbered ∈ arrivals := by
    rw [split]
    simp
  exact stream.sent numbered arrived

/-- In a station that tracks the stream, the newer syncs are applied. -/
theorem SyncStream.appliesNumbered_iff
    {before after : List NumberedArrival} {numbered : NumberedArrival}
    (split : arrivals = before ++ numbered :: after)
    (tracks :
      Tracks host.txSeq control (syncMachine.run control before)
        (appliedIndices control before)) :
    appliesNumbered (syncMachine.run control before) numbered = true ↔
      Newer (appliedIndices control before) numbered.index := by
  rcases stream.arrives split with ⟨info, sync, gate⟩
  exact
    (tracks.appliesNumbered_iff sync gate).trans
      (tracks.staleSync_iff sync
        (stream.window before numbered after split))

/-- After every beginning the filter holds the newest number applied. -/
theorem SyncStream.tracks
    {before after : List NumberedArrival}
    (split : arrivals = before ++ after) :
    Tracks host.txSeq control (syncMachine.run control before)
      (appliedIndices control before) := by
  induction before using List.reverseRecOn generalizing after with
  | nil =>
      exact
        { station := stream.station
          active := rfl
          target := rfl
          unset := fun _ => stream.unset
          latest := fun _ none => by simp [appliedIndices,
            Machine.selected] at none
          increasing := List.Pairwise.nil }
  | append_singleton earlier numbered induction =>
      rw [List.append_assoc, List.singleton_append] at split
      have tracks := induction split
      rcases stream.arrives split with ⟨info, sync, gate⟩
      have applies := stream.appliesNumbered_iff split tracks
      rw [appliedIndices_append, Machine.run_append]
      change Tracks _ _ (syncMachine.next _ numbered) _
      cases accepted :
          appliesNumbered (syncMachine.run control earlier) numbered with
      | true =>
          rw [if_pos rfl]
          exact
            (tracks.newest sync gate accepted
              (applies.mp accepted)).1
      | false =>
          have next := tracks.next_eq sync gate
          rw [accepted, if_neg Bool.false_ne_true] at next
          rw [next, if_neg Bool.false_ne_true, List.append_nil]
          exact tracks

/--
The first sync is applied.  From then on a sync is applied, and becomes the
known network, exactly when it was sent after the newest one applied; any
other leaves the station as it was.  So the syncs applied were sent in the
order in which they are applied.
-/
theorem SyncStream.applies_iff_newer :
    (∀ before numbered after,
      arrivals = before ++ numbered :: after →
        (appliesNumbered (syncMachine.run control before) numbered = true ↔
          ∀ newest ∈ (appliedIndices control before).max?,
            newest < numbered.index) ∧
        (appliesNumbered (syncMachine.run control before) numbered = true →
          ∃ info seq,
            syncOf numbered.arrival.payload = some (info, seq) ∧
              (syncMachine.run control
                (before ++ [numbered])).networkInfo = info) ∧
        (appliesNumbered (syncMachine.run control before) numbered = false →
          syncMachine.run control (before ++ [numbered]) =
            syncMachine.run control before)) ∧
      (∀ first rest,
        arrivals = first :: rest → appliesNumbered control first = true) ∧
      (appliedIndices control arrivals).Pairwise (· < ·) := by
  refine ⟨?_, ?_, (stream.tracks (List.append_nil arrivals).symm).increasing⟩
  · intro before numbered after split
    rcases stream.arrives split with ⟨info, sync, gate⟩
    have tracks := stream.tracks split
    have applies := stream.appliesNumbered_iff split tracks
    have last :
        syncMachine.run control (before ++ [numbered]) =
          syncMachine.next (syncMachine.run control before) numbered :=
      Machine.run_append ..
    refine ⟨applies, ?_, ?_⟩
    · intro accepted
      refine ⟨info, _, sync.syncOf_payload, ?_⟩
      rw [last]
      exact
        (tracks.newest sync gate accepted (applies.mp accepted)).2
    · intro refused
      have next := tracks.next_eq sync gate
      rwa [refused, if_neg Bool.false_ne_true, ← last] at next
  · intro first rest split
    have begins : arrivals = [] ++ first :: rest := split
    refine
      (stream.appliesNumbered_iff begins (stream.tracks begins)).mpr ?_
    intro newest none
    simp [appliedIndices, Machine.selected] at none

end Streams

/-- A host that sends its network twice. -/
def resend : SendCall where
  env := Env.at 0
  dst := 0x0A0D0002
  type := .syncNetwork
  body := NetworkInfo.codec.encode sampleNetwork
  fits := (NetworkInfo.codec.encode_length sampleNetwork).le

/-- Frame number `index` of that host arrives. -/
def resent (index : Nat) : NumberedArrival where
  index := index
  arrival :=
    syncArrival (Env.at 0) 0x0A0D0003 sampleNetwork (stampOf 0 index)

theorem resent_payload (index : Nat) :
    (resent index).arrival.payload =
      frameBytes .syncNetwork (stampOf 0 index)
        (NetworkInfo.codec.encode sampleNetwork) := by
  simp only [resent, syncArrival]

theorem sentBy_resend (host : LdnControl) (calls : List SendCall) :
    sentBy host (resend :: calls) =
      ⟨0x0A0D0002, .syncNetwork, nextSeq host.txSeq,
        NetworkInfo.codec.encode sampleNetwork⟩ ::
          sentBy (sendMachine.next host resend) calls :=
  sentBy_cons host resend calls

theorem resent_stream :
    SyncStream (LdnControl.constructed 1400) [resend, resend]
      joiningSystem.control [resent 2, resent 1] where
  station := .inl rfl
  unset := rfl
  sent := by
    intro numbered member
    refine ⟨sampleNetwork, ?_, fun _ => rfl⟩
    have frames :
        sentBy (LdnControl.constructed 1400) [resend, resend] =
          [⟨0x0A0D0002, .syncNetwork, stampOf 0 1,
              NetworkInfo.codec.encode sampleNetwork⟩,
            ⟨0x0A0D0002, .syncNetwork, stampOf 0 2,
              NetworkInfo.codec.encode sampleNetwork⟩] := by
      rw [sentBy_resend, sentBy_resend, sendMachine_next_txSeq]
      rfl
    simp only [List.mem_cons, List.not_mem_nil, or_false] at member
    rcases member with rfl | rfl
    · refine ⟨by decide, 0x0A0D0002, stampOf 0 2, ?_, resent_payload 2⟩
      rw [frames]
      rfl
    · refine ⟨by decide, 0x0A0D0002, stampOf 0 1, ?_, resent_payload 1⟩
      rw [frames]
      rfl
  window := by
    intro before numbered after split newest latest
    have applied := (List.max?_eq_some_iff.mp latest).1
    rcases before with _ | ⟨first, rest⟩
    · simp [appliedIndices, Machine.selected] at applied
    · rw [List.cons_append, List.cons.injEq] at split
      rcases split with ⟨rfl, split⟩
      rcases rest with _ | ⟨second, rest⟩
      · rw [List.nil_append, List.cons.injEq] at split
        rcases split with ⟨rfl, -⟩
        have two : newest = 2 := by
          simp only [appliedIndices, Machine.selected] at applied
          split at applied
          · simpa [resent] using applied
          · simp at applied
        subst two
        exact ⟨by decide, by decide⟩
      · simp at split

theorem resent_applied :
    SyncStream (LdnControl.constructed 1400) [resend, resend]
        joiningSystem.control [resent 2, resent 1] ∧
      appliesNumbered joiningSystem.control (resent 2) = true ∧
      (appliedIndices joiningSystem.control
        [resent 2, resent 1]).Pairwise (· < ·) :=
  ⟨resent_stream, resent_stream.applies_iff_newer.2.1 _ _ rfl,
    resent_stream.applies_iff_newer.2.2⟩

end SlpClient.Ldn
