import Mathlib.Data.List.Chain
import Mathlib.Data.List.Nodup
import SlpClient.Tunnel.Reassembly

/-!
# Reassembly never mixes datagrams

Fragments of any number of datagrams arrive in any order, with losses and
repetitions.  Whatever expires or gives way, a buffer handed to `ProcessIpv4`
is one of the datagrams.  A datagram whose parts follow each other closely
enough, while the table has room, is handed up.

What counts as close is the time between the parts of a datagram that were
not there before: a repeated part is dropped without updating its entry.
-/

namespace SlpClient.Tunnel

open SlpClient.Lib

/-! ## Traffic -/

/-- The reassembly key that `OnFrag` reads off a payload. -/
def Arrival.key (arrival : Arrival) : UInt32 × UInt16 :=
  (rd32be arrival.bytes 0, rd16be arrival.bytes 8)

/-- The ticks that may be read for a list of arrivals, in order. -/
def ticks (arrivals : List Arrival) : List Nat :=
  arrivals.flatMap (fun arrival => [arrival.now, arrival.later])

/-- Fragments of a family of datagrams at non-decreasing ticks. -/
structure Traffic (family : Set Datagram) (arrivals : List Arrival) :
    Prop where
  keyed : Set.InjOn Datagram.key family
  cut :
    ∀ arrival ∈ arrivals,
      ∃ datagram ∈ family, arrival.bytes ∈ datagram.fragments
  ordered : (ticks arrivals).Pairwise (· ≤ ·)

/-- The arrivals that bring a payload of `wanted` for the first time. -/
def firstArrivals (wanted : List (List UInt8)) :
    List Arrival → List Arrival
  | [] => []
  | arrival :: rest =>
      if arrival.bytes ∈ wanted then
        arrival :: firstArrivals (wanted.erase arrival.bytes) rest
      else firstArrivals wanted rest

/-- The arrivals of fragments of a datagram, repetitions included. -/
def ownArrivals (datagram : Datagram) (arrivals : List Arrival) :
    List Arrival :=
  arrivals.filter (fun arrival => arrival.bytes ∈ datagram.fragments)

/--
Every part of the datagram arrives, the arrivals that are `counted` follow
each other within the timeout, and from its first part to its last at most
four keys, that of the arriving fragment among them, hold an unexpired entry.
-/
structure Punctual (datagram : Datagram) (counted arrivals : List Arrival) :
    Prop where
  arrived :
    ∀ payload ∈ datagram.fragments, payload ∈ arrivals.map Arrival.bytes
  gaps :
    counted.IsChain
      (fun earlier next => next.now - earlier.later ≤ fragTimeoutTicks)
  room :
    ∀ before arrival after,
      arrivals = before ++ arrival :: after →
        (∃ payload ∈ datagram.fragments,
          payload ∈ (before ++ [arrival]).map Arrival.bytes) →
        (∃ payload ∈ datagram.fragments,
          payload ∉ before.map Arrival.bytes) →
        (insert arrival.key
          ((fragMachine.run FragTable.empty before).liveKeys
            arrival.now)).card ≤ maxFragEntries

/-- The buffers that a run hands to `ProcessIpv4`; nothing is `none`. -/
def handed (arrivals : List Arrival) : List (Option (List UInt8)) :=
  fragMachine.outputs FragTable.empty arrivals

/-! ## Soundness of runs -/

theorem fragMachine_step
    (table : FragTable) {arrival : Arrival} {datagram : Datagram}
    {part : Fin maxTotalParts} (inside : part < datagram.parts)
    (body : partBody datagram.bytes part = arrival.bytes) :
    fragMachine.step table arrival =
      table.onPart arrival.now arrival.later
        (datagram.fragPart part inside) := by
  change table.onFrag arrival.now arrival.later arrival.bytes = _
  unfold FragTable.onFrag
  rw [← body, datagram.openFrag_partBody part inside]

theorem Arrival.key_eq
    {arrival : Arrival} {datagram : Datagram}
    (own : arrival.bytes ∈ datagram.fragments) :
    arrival.key = datagram.key := by
  rcases Datagram.mem_fragments.mp own with ⟨part, inside, body⟩
  unfold Arrival.key
  rw [← body]
  apply Prod.ext
  · exact rd32be_of_take rfl
  · exact rd16be_of_take rfl

section Runs

variable
    {family : Set Datagram}
    {arrivals : List Arrival}
    (traffic : Traffic family arrivals)

include traffic

/-- The table is sound after every beginning of the traffic. -/
theorem Traffic.sound_run
    {before after : List Arrival} (split : arrivals = before ++ after) :
    (fragMachine.run FragTable.empty before).Sound family := by
  apply Machine.run_invariant _ FragTable.Sound.empty
  · intro arrival member
    apply traffic.cut arrival
    rw [split]
    exact List.mem_append_left after member
  · rintro table arrival sound ⟨datagram, member, own⟩
    rcases Datagram.mem_fragments.mp own with ⟨part, inside, body⟩
    unfold Machine.next
    rw [fragMachine_step table inside body]
    exact (sound.onPart traffic.keyed member _ _ part inside).1

/-- An arrival hands up nothing but the datagram it is a fragment of. -/
theorem Traffic.handed_own
    {before after : List Arrival} {arrival : Arrival}
    (split : arrivals = before ++ arrival :: after)
    {datagram : Datagram} (member : datagram ∈ family)
    (own : arrival.bytes ∈ datagram.fragments) {buffer : List UInt8}
    (output :
      fragMachine.output (fragMachine.run FragTable.empty before) arrival =
        some buffer) :
    buffer = datagram.bytes := by
  have sound := traffic.sound_run split
  rcases Datagram.mem_fragments.mp own with ⟨part, inside, body⟩
  unfold Machine.output at output
  rw [fragMachine_step _ inside body] at output
  exact
    (sound.onPart traffic.keyed member _ _ part inside).2 buffer output

/-- Every buffer handed up is one of the datagrams. -/
theorem Traffic.handed_mem
    {buffer : List UInt8} (given : some buffer ∈ handed arrivals) :
    ∃ datagram ∈ family, buffer = datagram.bytes := by
  rcases Machine.exists_step_of_mem_outputs given with
    ⟨before, arrival, after, split, output⟩
  have arrives : arrival ∈ arrivals := by
    rw [split]
    simp
  rcases traffic.cut arrival arrives with ⟨datagram, member, own⟩
  exact ⟨datagram, member, traffic.handed_own split member own output⟩

end Runs

/-- A family of at most four keys always has room. -/
theorem Traffic.room
    {family : Set Datagram} {arrivals before after : List Arrival}
    {arrival : Arrival} (traffic : Traffic family arrivals)
    (split : arrivals = before ++ arrival :: after)
    {keys : Finset (UInt32 × UInt16)}
    (known : ∀ datagram ∈ family, datagram.key ∈ keys)
    (few : keys.card ≤ maxFragEntries) :
    (insert arrival.key
      ((fragMachine.run FragTable.empty before).liveKeys
        arrival.now)).card ≤ maxFragEntries := by
  have sound := traffic.sound_run split
  have arrives : arrival ∈ arrivals := by
    rw [split]
    simp
  rcases traffic.cut arrival arrives with ⟨datagram, member, own⟩
  refine (Finset.card_le_card ?_).trans few
  apply Finset.insert_subset
  · rw [Arrival.key_eq own]
    exact known datagram member
  · intro key live
    unfold FragTable.liveKeys at live
    rcases Finset.mem_image.mp live with ⟨slot, unexpired, rfl⟩
    have active := (Finset.mem_filter.mp unexpired).2
    rcases sound.carried slot (FragTable.expire_of_active active).2 with
      ⟨carried, carriedMember, carries⟩
    rw [carries.src, carries.id]
    exact known carried carriedMember

/-! ## First arrivals -/

theorem firstArrivals_append
    (wanted : List (List UInt8)) (first second : List Arrival) :
    firstArrivals wanted (first ++ second) =
      firstArrivals wanted first ++
        firstArrivals (wanted.diff (first.map Arrival.bytes)) second := by
  induction first generalizing wanted with
  | nil => simp [firstArrivals]
  | cons arrival rest induction =>
      rw [List.cons_append, List.map_cons, List.diff_cons]
      by_cases needed : arrival.bytes ∈ wanted
      · simp only [firstArrivals, if_pos needed, induction,
          List.cons_append]
      · simp only [firstArrivals, if_neg needed, induction,
          List.erase_of_not_mem needed]

theorem firstArrivals_sublist
    (wanted : List (List UInt8)) (arrivals : List Arrival) :
    (firstArrivals wanted arrivals).Sublist arrivals := by
  induction arrivals generalizing wanted with
  | nil => exact List.Sublist.slnil
  | cons arrival rest induction =>
      unfold firstArrivals
      split
      · exact (induction _).cons_cons arrival
      · exact (induction _).cons arrival

theorem bytes_mem_of_mem_firstArrivals
    {wanted : List (List UInt8)} {arrivals : List Arrival}
    {arrival : Arrival} (member : arrival ∈ firstArrivals wanted arrivals) :
    arrival.bytes ∈ wanted := by
  induction arrivals generalizing wanted with
  | nil => simp [firstArrivals] at member
  | cons head rest induction =>
      unfold firstArrivals at member
      split at member
      · rename_i needed
        rcases List.mem_cons.mp member with rfl | later
        · exact needed
        · exact List.mem_of_mem_erase (induction later)
      · exact induction member

theorem firstArrivals_ne_nil
    {wanted : List (List UInt8)} {arrivals : List Arrival}
    {payload : List UInt8} (needed : payload ∈ wanted)
    (arrives : payload ∈ arrivals.map Arrival.bytes) :
    firstArrivals wanted arrivals ≠ [] := by
  induction arrivals with
  | nil => simp at arrives
  | cons arrival rest induction =>
      unfold firstArrivals
      split
      · exact List.cons_ne_nil _ _
      · rename_i unneeded
        rcases List.mem_cons.mp arrives with rfl | later
        · exact absurd needed unneeded
        · exact induction later

/-- No tick read later in the traffic is below the next arrival's. -/
theorem Traffic.now_le
    {family : Set Datagram} {before after : List Arrival}
    {arrival next : Arrival}
    (traffic : Traffic family (before ++ arrival :: after))
    (member : next ∈ arrival :: after) :
    arrival.now ≤ next.now := by
  rcases List.mem_cons.mp member with rfl | later
  · exact le_rfl
  · have ordered := traffic.ordered
    unfold ticks at ordered
    rw [List.flatMap_append, List.flatMap_cons] at ordered
    have tail := (List.pairwise_append.mp ordered).2.1
    have crossing := (List.pairwise_append.mp tail).2.2
    apply crossing arrival.now (by simp) next.now
    exact List.mem_flatMap.mpr ⟨next, later, by simp⟩

/-- Until a datagram is complete its entry never has time to expire. -/
theorem Punctual.timely
    {family : Set Datagram} {datagram : Datagram}
    {arrivals before after : List Arrival} {arrival last : Arrival}
    (traffic : Traffic family arrivals)
    (punctual :
      Punctual datagram (firstArrivals datagram.fragments arrivals)
        arrivals)
    (split : arrivals = before ++ arrival :: after)
    (unfinished :
      ∃ payload ∈ datagram.fragments,
        payload ∉ before.map Arrival.bytes)
    (latest :
      (firstArrivals datagram.fragments before).getLast? = some last) :
    arrival.now - last.later ≤ fragTimeoutTicks := by
  subst split
  rcases unfinished with ⟨payload, own, missing⟩
  have needed :
      payload ∈ datagram.fragments.diff (before.map Arrival.bytes) :=
    datagram.fragments_nodup.mem_sdiff_iff.mpr ⟨own, missing⟩
  have arrives : payload ∈ (arrival :: after).map Arrival.bytes := by
    have somewhere := punctual.arrived payload own
    rw [List.map_append] at somewhere
    exact (List.mem_append.mp somewhere).resolve_left missing
  rcases List.exists_cons_of_ne_nil (firstArrivals_ne_nil needed arrives)
    with ⟨next, rest, following⟩
  have nextMember : next ∈ arrival :: after := by
    have first : next ∈ next :: rest := List.mem_cons_self
    rw [← following] at first
    exact (firstArrivals_sublist ..).subset first
  have gaps := punctual.gaps
  rw [firstArrivals_append, following] at gaps
  have gap : next.now - last.later ≤ fragTimeoutTicks :=
    (List.isChain_append.mp gaps).2.2 last latest next rfl
  have order := traffic.now_le nextMember
  exact (Nat.sub_le_sub_right order last.later).trans gap

/-! ## Parts received -/

/-- The parts of a datagram that have arrived. -/
def receivedParts (datagram : Datagram) (arrivals : List Arrival) :
    Finset (Fin maxTotalParts) :=
  Finset.univ.filter
    (fun part =>
      part.val < datagram.parts ∧
        partBody datagram.bytes part ∈ arrivals.map Arrival.bytes)

theorem mem_receivedParts
    {datagram : Datagram} {arrivals : List Arrival}
    {part : Fin maxTotalParts} :
    part ∈ receivedParts datagram arrivals ↔
      part.val < datagram.parts ∧
        partBody datagram.bytes part ∈ arrivals.map Arrival.bytes := by
  simp [receivedParts]

theorem receivedParts_mono
    (datagram : Datagram) (before after : List Arrival) :
    receivedParts datagram before ⊆
      receivedParts datagram (before ++ after) := by
  intro part received
  rw [mem_receivedParts] at received ⊢
  rw [List.map_append]
  exact ⟨received.1, List.mem_append_left _ received.2⟩

theorem receivedParts_subset_want
    (datagram : Datagram) (arrivals : List Arrival) :
    receivedParts datagram arrivals ⊆ FragEntry.want datagram.parts := by
  intro part received
  simpa [FragEntry.want] using (mem_receivedParts.mp received).1

/-- The arrival of a part adds it. -/
theorem receivedParts_own
    {datagram : Datagram} (before : List Arrival) {arrival : Arrival}
    {part : Fin maxTotalParts} (inside : part < datagram.parts)
    (body : partBody datagram.bytes part = arrival.bytes) :
    receivedParts datagram (before ++ [arrival]) =
      insert part (receivedParts datagram before) := by
  ext other
  rw [Finset.mem_insert, mem_receivedParts, mem_receivedParts,
    List.map_append, List.mem_append]
  constructor
  · rintro ⟨otherInside, earlier | now⟩
    · exact Or.inr ⟨otherInside, earlier⟩
    · have same := List.mem_singleton.mp now
      rw [← body] at same
      exact Or.inl (Datagram.partBody_injective otherInside inside same)
  · rintro (rfl | ⟨otherInside, earlier⟩)
    · exact ⟨inside, Or.inr (List.mem_singleton.mpr body)⟩
    · exact ⟨otherInside, Or.inl earlier⟩

/-- The arrival of anything else adds nothing. -/
theorem receivedParts_foreign
    {datagram : Datagram} (before : List Arrival) {arrival : Arrival}
    (foreign : arrival.bytes ∉ datagram.fragments) :
    receivedParts datagram (before ++ [arrival]) =
      receivedParts datagram before := by
  ext other
  rw [mem_receivedParts, mem_receivedParts, List.map_append,
    List.mem_append]
  constructor
  · rintro ⟨inside, earlier | now⟩
    · exact ⟨inside, earlier⟩
    · have body := List.mem_singleton.mp now
      exact
        absurd (Datagram.mem_fragments.mpr ⟨other, inside, body⟩) foreign
  · rintro ⟨inside, earlier⟩
    exact ⟨inside, Or.inl earlier⟩

/-- A datagram is unfinished while one of its fragments has not arrived. -/
theorem receivedParts_ne_want
    {datagram : Datagram} {arrivals : List Arrival} :
    receivedParts datagram arrivals ≠ FragEntry.want datagram.parts ↔
      ∃ payload ∈ datagram.fragments,
        payload ∉ arrivals.map Arrival.bytes := by
  constructor
  · intro unfinished
    by_contra finished
    apply unfinished
    apply Finset.Subset.antisymm (receivedParts_subset_want ..)
    intro part counted
    have inside : part.val < datagram.parts := by
      simpa [FragEntry.want] using counted
    rw [mem_receivedParts]
    refine ⟨inside, ?_⟩
    by_contra missing
    exact
      finished
        ⟨_, Datagram.mem_fragments.mpr ⟨part, inside, rfl⟩, missing⟩
  · rintro ⟨payload, own, missing⟩ full
    rcases Datagram.mem_fragments.mp own with ⟨part, inside, rfl⟩
    have counted : part ∈ FragEntry.want datagram.parts := by
      simpa [FragEntry.want] using inside
    rw [← full] at counted
    exact missing (mem_receivedParts.mp counted).2

/-! ## Progress of one datagram -/

/-- Where the table stands with an unfinished datagram. -/
inductive Progress (datagram : Datagram) (before : List Arrival)
    (table : FragTable) : Prop
  | waiting
      (unstarted : receivedParts datagram before = ∅)
      (absent : table.Absent datagram)
  | assembling
      (slot : Fin maxFragEntries) (last : Arrival)
      (latest :
        (firstArrivals datagram.fragments before).getLast? = some last)
      (tracked :
        FragTable.Tracks datagram slot (receivedParts datagram before)
          last.later table)

section Progress

variable
    {family : Set Datagram}
    {arrivals before after : List Arrival}
    {arrival : Arrival}
    {datagram : Datagram}

/-- A repeated payload is not a first arrival. -/
theorem firstArrivals_repeated
    (repeated : arrival.bytes ∈ before.map Arrival.bytes) :
    firstArrivals datagram.fragments (before ++ [arrival]) =
      firstArrivals datagram.fragments before := by
  rw [firstArrivals_append]
  have unneeded :
      arrival.bytes ∉
        datagram.fragments.diff (before.map Arrival.bytes) := by
    intro needed
    exact (datagram.fragments_nodup.mem_sdiff_iff.mp needed).2 repeated
  simp [firstArrivals, unneeded]

/-- A payload of another datagram is not a first arrival. -/
theorem firstArrivals_foreign
    (foreign : arrival.bytes ∉ datagram.fragments) :
    firstArrivals datagram.fragments (before ++ [arrival]) =
      firstArrivals datagram.fragments before := by
  rw [firstArrivals_append]
  have unneeded :
      arrival.bytes ∉
        datagram.fragments.diff (before.map Arrival.bytes) := by
    intro needed
    exact foreign (datagram.fragments_nodup.mem_sdiff_iff.mp needed).1
  simp [firstArrivals, unneeded]

/-- A payload that was missing is the latest first arrival. -/
theorem firstArrivals_missing
    (own : arrival.bytes ∈ datagram.fragments)
    (missing : arrival.bytes ∉ before.map Arrival.bytes) :
    (firstArrivals datagram.fragments
      (before ++ [arrival])).getLast? = some arrival := by
  rw [firstArrivals_append]
  have needed :
      arrival.bytes ∈
        datagram.fragments.diff (before.map Arrival.bytes) :=
    datagram.fragments_nodup.mem_sdiff_iff.mpr ⟨own, missing⟩
  simp [firstArrivals, needed]

variable
    (traffic : Traffic family arrivals)
    (member : datagram ∈ family)
    (punctual :
      Punctual datagram (firstArrivals datagram.fragments arrivals)
        arrivals)
    (split : arrivals = before ++ arrival :: after)
    (progress :
      Progress datagram before (fragMachine.run FragTable.empty before))
    (unfinished :
      receivedParts datagram before ≠ FragEntry.want datagram.parts)

include traffic punctual split progress unfinished

/-- A fragment of the datagram is stored, dropped, or completes it. -/
theorem Progress.next_own
    (own : arrival.bytes ∈ datagram.fragments) :
    (receivedParts datagram (before ++ [arrival]) =
        FragEntry.want datagram.parts →
      fragMachine.output (fragMachine.run FragTable.empty before) arrival =
        some datagram.bytes) ∧
    (receivedParts datagram (before ++ [arrival]) ≠
        FragEntry.want datagram.parts →
      fragMachine.output (fragMachine.run FragTable.empty before) arrival =
          none ∧
        Progress datagram (before ++ [arrival])
          (fragMachine.next (fragMachine.run FragTable.empty before)
            arrival)) := by
  have sound := traffic.sound_run split
  have someMissing := receivedParts_ne_want.mp unfinished
  have room :=
    punctual.room before arrival after split
      ⟨arrival.bytes, own, by simp⟩ someMissing
  rw [Arrival.key_eq own] at room
  rcases Datagram.mem_fragments.mp own with ⟨part, inside, body⟩
  have present :
      part ∈ receivedParts datagram before ↔
        arrival.bytes ∈ before.map Arrival.bytes := by
    rw [mem_receivedParts, body]
    exact and_iff_right inside
  rw [receivedParts_own before inside body]
  unfold Machine.next Machine.output
  rw [fragMachine_step _ inside body]
  generalize fragMachine.run FragTable.empty before = table at *
  cases progress with
  | waiting unstarted absent =>
      have fresh : arrival.bytes ∉ before.map Arrival.bytes := by
        rw [← present, unstarted]
        exact Finset.notMem_empty part
      have received :
          receivedParts datagram (before ++ [arrival]) = {part} := by
        rw [receivedParts_own before inside body, unstarted]
        rfl
      have expired := absent.expire arrival.now
      rcases sound.free_slot room expired with ⟨free, inactive⟩
      rcases FragTable.reuseSlot_free none int64Max
          ⟨free, List.mem_finRange free, inactive⟩ with
        ⟨slot, reused, _⟩
      rcases FragTable.onPart_first expired reused with ⟨tracked, nothing⟩
      refine ⟨?_, fun _ => ⟨nothing, ?_⟩⟩
      · intro full
        rw [unstarted] at full
        exact absurd full (FragTable.singleton_ne_want datagram part)
      · apply Progress.assembling slot arrival
        · exact firstArrivals_missing own fresh
        · rw [received]
          exact tracked
  | assembling slot last latest tracked =>
      have timely := punctual.timely traffic split someMissing latest
      by_cases arrivedBefore : part ∈ receivedParts datagram before
      · rw [Finset.insert_eq_of_mem arrivedBefore]
        rcases tracked.onPart_repeated timely arrivedBefore with
          ⟨kept, nothing⟩
        refine ⟨fun full => absurd full unfinished, fun _ => ⟨nothing, ?_⟩⟩
        apply Progress.assembling slot last
        · rw [firstArrivals_repeated (present.mp arrivedBefore)]
          exact latest
        · rw [receivedParts_own before inside body,
            Finset.insert_eq_of_mem arrivedBefore]
          exact kept
      · constructor
        · intro full
          exact (tracked.onPart_last timely arrivedBefore full).2
        · intro partly
          rcases tracked.onPart_missing timely arrivedBefore partly with
            ⟨stored, nothing⟩
          refine ⟨nothing, Progress.assembling slot arrival ?_ ?_⟩
          · apply firstArrivals_missing own
            rw [← present]
            exact arrivedBefore
          · rw [receivedParts_own before inside body]
            exact stored

include member

/-- A fragment of another datagram leaves this one where it is. -/
theorem Progress.next_foreign
    (foreign : arrival.bytes ∉ datagram.fragments) :
    Progress datagram (before ++ [arrival])
      (fragMachine.next (fragMachine.run FragTable.empty before)
        arrival) := by
  have sound := traffic.sound_run split
  have someMissing := receivedParts_ne_want.mp unfinished
  have arrives : arrival ∈ arrivals := by
    rw [split]
    simp
  rcases traffic.cut arrival arrives with ⟨other, otherMember, own⟩
  have distinct : other.key ≠ datagram.key := by
    intro same
    rw [traffic.keyed otherMember member same] at own
    exact foreign own
  have room := punctual.room before arrival after split
  rw [Arrival.key_eq own] at room
  rcases Datagram.mem_fragments.mp own with ⟨part, inside, body⟩
  have received := receivedParts_foreign before foreign
  unfold Machine.next
  rw [fragMachine_step _ inside body]
  generalize fragMachine.run FragTable.empty before = table at *
  cases progress with
  | waiting unstarted absent =>
      apply Progress.waiting
      · rw [received]
        exact unstarted
      · exact
          absent.onPart_foreign traffic.keyed sound otherMember distinct
  | assembling slot last latest tracked =>
      have timely := punctual.timely traffic split someMissing latest
      have started :
          ∃ payload ∈ datagram.fragments,
            payload ∈ (before ++ [arrival]).map Arrival.bytes := by
        have first := List.mem_of_getLast? latest
        have arrived := (firstArrivals_sublist ..).subset first
        refine ⟨last.bytes, bytes_mem_of_mem_firstArrivals first, ?_⟩
        rw [List.map_append]
        exact List.mem_append_left _ (List.mem_map_of_mem arrived)
      apply Progress.assembling slot last
      · rw [firstArrivals_foreign foreign]
        exact latest
      · rw [received]
        apply
          tracked.onPart_foreign timely traffic.keyed sound otherMember
            distinct
        intro absent
        exact sound.free_slot (room started someMissing) absent

end Progress

section Completion

variable
    {family : Set Datagram}
    {arrivals : List Arrival}
    {datagram : Datagram}
    (traffic : Traffic family arrivals)
    (member : datagram ∈ family)
    (punctual :
      Punctual datagram (firstArrivals datagram.fragments arrivals)
        arrivals)

include traffic member punctual

/-- As long as a punctual datagram is unfinished the table is on to it. -/
theorem Punctual.progress
    {before after : List Arrival} (split : arrivals = before ++ after)
    (unfinished :
      receivedParts datagram before ≠ FragEntry.want datagram.parts) :
    Progress datagram before (fragMachine.run FragTable.empty before) := by
  induction before using List.reverseRecOn generalizing after with
  | nil =>
      apply Progress.waiting
      · simp [receivedParts]
      · intro slot
        rfl
  | append_singleton before arrival induction =>
      rw [List.append_assoc, List.singleton_append] at split
      have earlier :
          receivedParts datagram before ≠
            FragEntry.want datagram.parts := by
        intro full
        apply unfinished
        apply Finset.Subset.antisymm (receivedParts_subset_want ..)
        rw [← full]
        exact receivedParts_mono ..
      have progress := induction split earlier
      rw [Machine.run_append]
      by_cases own : arrival.bytes ∈ datagram.fragments
      · exact
          ((progress.next_own traffic punctual split earlier own).2
            unfinished).2
      · exact
          progress.next_foreign traffic member punctual split earlier own

omit traffic member in
/-- Some arrival brings the last part of a punctual datagram. -/
theorem Punctual.exists_last :
    ∃ before arrival after,
      arrivals = before ++ arrival :: after ∧
        receivedParts datagram before ≠ FragEntry.want datagram.parts ∧
        receivedParts datagram (before ++ [arrival]) =
          FragEntry.want datagram.parts := by
  have finished :
      receivedParts datagram arrivals = FragEntry.want datagram.parts := by
    by_contra unfinished
    rcases receivedParts_ne_want.mp unfinished with ⟨payload, own, missing⟩
    exact missing (punctual.arrived payload own)
  clear punctual
  induction arrivals using List.reverseRecOn with
  | nil =>
      have started : (⟨0, by decide⟩ : Fin maxTotalParts) ∈
          FragEntry.want datagram.parts := by
        have parted := datagram.one_lt_parts
        simp [FragEntry.want]
        omega
      rw [← finished] at started
      simp [receivedParts] at started
  | append_singleton arrivals arrival induction =>
      by_cases earlier :
          receivedParts datagram arrivals = FragEntry.want datagram.parts
      · rcases induction earlier with
          ⟨before, last, after, rfl, unfinished, complete⟩
        exact
          ⟨before, last, after ++ [arrival], by simp, unfinished,
            complete⟩
      · exact ⟨arrivals, arrival, [], rfl, earlier, finished⟩

/-- Before its last part a punctual datagram is not handed up. -/
theorem Punctual.not_handed_before
    {before after : List Arrival} (split : arrivals = before ++ after)
    (unfinished :
      receivedParts datagram before ≠ FragEntry.want datagram.parts) :
    some datagram.bytes ∉ fragMachine.outputs FragTable.empty before := by
  intro given
  rcases Machine.exists_step_of_mem_outputs given with
    ⟨first, arrival, rest, rfl, output⟩
  rw [List.append_assoc, List.cons_append] at split
  have arrives : arrival ∈ arrivals := by
    rw [split]
    simp
  rcases traffic.cut arrival arrives with ⟨other, otherMember, own⟩
  have same : datagram = other :=
    Datagram.ext (traffic.handed_own split otherMember own output)
  rw [← same] at own
  have partly :
      ∀ beginning ending, first ++ arrival :: rest = beginning ++ ending →
        receivedParts datagram beginning ≠
          FragEntry.want datagram.parts := by
    intro beginning ending divided full
    apply unfinished
    apply Finset.Subset.antisymm (receivedParts_subset_want ..)
    rw [divided, ← full]
    exact receivedParts_mono ..
  have earlier := partly first (arrival :: rest) rfl
  have progress := punctual.progress traffic member split earlier
  have nothing :=
    ((progress.next_own traffic punctual split earlier own).2
      (partly (first ++ [arrival]) rest (by simp))).1
  rw [nothing] at output
  contradiction

omit member punctual in
/-- An unrepeated datagram is not handed up after its last part. -/
theorem Traffic.not_handed_after
    {before after : List Arrival} {arrival : Arrival}
    (split : arrivals = before ++ arrival :: after)
    (complete :
      receivedParts datagram (before ++ [arrival]) =
        FragEntry.want datagram.parts)
    (unrepeated :
      ((ownArrivals datagram arrivals).map Arrival.bytes).Nodup) :
    some datagram.bytes ∉
      fragMachine.outputs
        (fragMachine.run FragTable.empty (before ++ [arrival])) after := by
  intro given
  rcases Machine.exists_step_of_mem_outputs given with
    ⟨between, last, rest, rfl, output⟩
  have divided :
      arrivals = (before ++ [arrival] ++ between) ++ last :: rest := by
    rw [split]
    simp
  rw [← Machine.run_append] at output
  have arrives : last ∈ arrivals := by
    rw [divided]
    simp
  rcases traffic.cut last arrives with ⟨other, otherMember, own⟩
  have same : datagram = other :=
    Datagram.ext (traffic.handed_own divided otherMember own output)
  rw [← same] at own
  rcases Datagram.mem_fragments.mp own with ⟨part, inside, body⟩
  have received : part ∈ receivedParts datagram (before ++ [arrival]) := by
    rw [complete]
    simpa [FragEntry.want] using inside
  have seen := (mem_receivedParts.mp received).2
  rw [body] at seen
  rcases List.mem_map.mp seen with ⟨earlier, earlierArrives, equal⟩
  have earlierOwn :
      earlier ∈ ownArrivals datagram (before ++ [arrival]) := by
    unfold ownArrivals
    rw [List.mem_filter, equal]
    exact ⟨earlierArrives, by simpa using own⟩
  have lastOwn : last ∈ ownArrivals datagram (last :: rest) := by
    unfold ownArrivals
    rw [List.mem_filter]
    exact ⟨List.mem_cons_self, by simpa using own⟩
  rw [divided, List.append_assoc] at unrepeated
  unfold ownArrivals at unrepeated
  rw [List.filter_append, List.map_append] at unrepeated
  apply
    (List.nodup_append.mp unrepeated).2.2 earlier.bytes
      (List.mem_map_of_mem earlierOwn) last.bytes _ equal
  apply List.mem_map_of_mem
  rw [List.filter_append]
  exact List.mem_append_right _ lastOwn

end Completion

/-! ## What a run hands up -/

/--
Every buffer handed to `ProcessIpv4` is one of the datagrams, whatever is
lost, repeated, expired or evicted.  A datagram whose parts all arrive, each
part not there before within the timeout of the one that came before it and
while at most four keys hold an unexpired entry, is handed up, and exactly
once if none of its fragments is repeated.
-/
theorem handed_datagrams
    {family : Set Datagram} {arrivals : List Arrival}
    (traffic : Traffic family arrivals) :
    (∀ buffer, some buffer ∈ handed arrivals →
      ∃ datagram ∈ family, buffer = datagram.bytes) ∧
    ∀ datagram ∈ family,
      Punctual datagram (firstArrivals datagram.fragments arrivals)
          arrivals →
        some datagram.bytes ∈ handed arrivals ∧
          (((ownArrivals datagram arrivals).map Arrival.bytes).Nodup →
            (handed arrivals).count (some datagram.bytes) = 1) := by
  refine ⟨fun buffer given => traffic.handed_mem given, ?_⟩
  intro datagram member punctual
  rcases punctual.exists_last with
    ⟨before, arrival, after, split, unfinished, complete⟩
  have own : arrival.bytes ∈ datagram.fragments := by
    by_contra foreign
    rw [receivedParts_foreign before foreign] at complete
    exact unfinished complete
  have progress := punctual.progress traffic member split unfinished
  have output :=
    (progress.next_own traffic punctual split unfinished own).1 complete
  have outputs :
      handed arrivals =
        fragMachine.outputs FragTable.empty before ++
          some datagram.bytes ::
            fragMachine.outputs
              (fragMachine.run FragTable.empty (before ++ [arrival]))
              after := by
    unfold handed
    rw [split, Machine.outputs_append, Machine.outputs_cons, output,
      Machine.run_append]
    rfl
  constructor
  · rw [outputs]
    simp
  · intro unrepeated
    have first :=
      punctual.not_handed_before traffic member split unfinished
    have last := traffic.not_handed_after split complete unrepeated
    rw [outputs, List.count_append, List.count_cons_self,
      List.count_eq_zero_of_not_mem first,
      List.count_eq_zero_of_not_mem last]

/-! ### A datagram of two parts -/

/-- The shortest datagram that is sent in parts. -/
def sampleDatagram : Datagram where
  bytes := List.replicate 1401 0
  long := by
    rw [List.length_replicate]
    decide
  fits := by
    rw [List.length_replicate]
    decide

theorem sampleDatagram_parts : sampleDatagram.parts = 2 := by
  unfold Datagram.parts chunkCount sampleDatagram
  rw [List.length_replicate]
  rfl

theorem sampleDatagram_fragments :
    sampleDatagram.fragments =
      [partBody sampleDatagram.bytes 0,
        partBody sampleDatagram.bytes 1] := by
  rw [Datagram.fragments_eq, sampleDatagram_parts]
  rfl

/-- One of its parts at a tick. -/
def sampleArrival (tick part : Nat) : Arrival :=
  ⟨tick, tick, partBody sampleDatagram.bytes part⟩

theorem sampleTraffic
    {arrivals : List Arrival}
    (sampled :
      ∀ arrival ∈ arrivals,
        arrival.bytes = partBody sampleDatagram.bytes 0 ∨
          arrival.bytes = partBody sampleDatagram.bytes 1)
    (ordered : (ticks arrivals).Pairwise (· ≤ ·)) :
    Traffic {sampleDatagram} arrivals where
  keyed := Set.injOn_singleton ..
  cut := by
    intro arrival arrives
    refine ⟨sampleDatagram, rfl, ?_⟩
    rw [sampleDatagram_fragments]
    simpa using sampled arrival arrives
  ordered := ordered

theorem sampleTraffic_room
    {arrivals before after : List Arrival} {arrival : Arrival}
    (traffic : Traffic {sampleDatagram} arrivals)
    (split : arrivals = before ++ arrival :: after) :
    (insert arrival.key
      ((fragMachine.run FragTable.empty before).liveKeys
        arrival.now)).card ≤ maxFragEntries := by
  have known :
      ∀ datagram ∈ ({sampleDatagram} : Set Datagram),
        datagram.key ∈ ({sampleDatagram.key} :
          Finset (UInt32 × UInt16)) := by
    rintro datagram rfl
    exact Finset.mem_singleton_self _
  apply traffic.room split known
  rw [Finset.card_singleton]
  decide

/-- Both parts, the second one first and the other just in time. -/
def reversedArrivals : List Arrival :=
  [sampleArrival 0 1, sampleArrival fragTimeoutTicks 0]

theorem reversedArrivals_traffic :
    Traffic {sampleDatagram} reversedArrivals := by
  apply sampleTraffic
  · intro arrival arrives
    rcases List.mem_pair.mp arrives with rfl | rfl
    · exact Or.inr rfl
    · exact Or.inl rfl
  · decide

theorem reversedArrivals_punctual :
    Punctual sampleDatagram
      (firstArrivals sampleDatagram.fragments reversedArrivals)
      reversedArrivals where
  arrived := by
    rw [sampleDatagram_fragments]
    intro payload own
    rcases List.mem_pair.mp own with rfl | rfl
    · exact List.mem_cons_of_mem _ List.mem_cons_self
    · exact List.mem_cons_self
  gaps := by
    apply List.Pairwise.isChain
    apply List.Pairwise.sublist (firstArrivals_sublist ..)
    exact
      List.pairwise_pair.mpr (by decide)
  room := by
    intro before arrival after split _ _
    exact sampleTraffic_room reversedArrivals_traffic split

theorem sampleDatagram_bodies_ne :
    partBody sampleDatagram.bytes 0 ≠ partBody sampleDatagram.bytes 1 := by
  have distinct := sampleDatagram.fragments_nodup
  rw [sampleDatagram_fragments] at distinct
  exact fun equal => (List.nodup_cons.mp distinct).1 (by simp [equal])

theorem handed_datagrams_reversed :
    some sampleDatagram.bytes ∈ handed reversedArrivals ∧
      (handed reversedArrivals).count (some sampleDatagram.bytes) = 1 := by
  have delivered :=
    (handed_datagrams reversedArrivals_traffic).2 sampleDatagram rfl
      reversedArrivals_punctual
  refine ⟨delivered.1, delivered.2 ?_⟩
  apply List.Sublist.nodup (List.filter_sublist.map Arrival.bytes)
  refine List.nodup_cons.mpr ⟨?_, List.nodup_singleton _⟩
  intro same
  exact sampleDatagram_bodies_ne (List.mem_singleton.mp same).symm

/-- The first part, its repetition, and the second part a timeout later. -/
def repeatedArrivals : List Arrival :=
  [sampleArrival 0 0, sampleArrival fragTimeoutTicks 0,
    sampleArrival (2 * fragTimeoutTicks) 1]

theorem repeatedArrivals_traffic :
    Traffic {sampleDatagram} repeatedArrivals := by
  apply sampleTraffic
  · intro arrival arrives
    simp only [repeatedArrivals, List.mem_cons, List.not_mem_nil,
      or_false] at arrives
    rcases arrives with rfl | rfl | rfl
    · exact Or.inl rfl
    · exact Or.inl rfl
    · exact Or.inr rfl
  · decide

theorem repeatedArrivals_punctual :
    Punctual sampleDatagram (ownArrivals sampleDatagram repeatedArrivals)
      repeatedArrivals where
  arrived := by
    rw [sampleDatagram_fragments]
    intro payload own
    rcases List.mem_pair.mp own with rfl | rfl
    · exact List.mem_cons_self
    · exact
        List.mem_cons_of_mem _ (List.mem_cons_of_mem _ List.mem_cons_self)
  gaps := by
    have allOwn :
        ownArrivals sampleDatagram repeatedArrivals =
          repeatedArrivals := by
      apply List.filter_eq_self.mpr
      intro arrival arrives
      rcases repeatedArrivals_traffic.cut arrival arrives with
        ⟨datagram, rfl, own⟩
      simpa using own
    rw [allOwn]
    refine List.isChain_cons_cons.mpr ⟨by decide, ?_⟩
    exact List.isChain_pair.mpr (by decide)
  room := by
    intro before arrival after split _ _
    exact sampleTraffic_room repeatedArrivals_traffic split

theorem sampleArrival_step
    (table : FragTable) (tick : Nat) (part : Fin maxTotalParts)
    (inside : part < sampleDatagram.parts) :
    fragMachine.step table (sampleArrival tick part) =
      table.onPart tick tick (sampleDatagram.fragPart part inside) :=
  fragMachine_step table inside rfl

/-- A part of the sample that starts its entry. -/
theorem sampleArrival_starts
    {table : FragTable} {tick : Nat} (part : Fin maxTotalParts)
    (inside : part < sampleDatagram.parts)
    (absent : (table.expire tick).Absent sampleDatagram)
    (free : ∃ slot, (table.expire tick slot).active = false) :
    ∃ slot,
      FragTable.Tracks sampleDatagram slot {part} tick
          (fragMachine.next table (sampleArrival tick part)) ∧
        fragMachine.output table (sampleArrival tick part) = none := by
  rcases free with ⟨free, inactive⟩
  rcases FragTable.reuseSlot_free none int64Max
      ⟨free, List.mem_finRange free, inactive⟩ with
    ⟨slot, reused, _⟩
  refine ⟨slot, ?_⟩
  unfold Machine.next Machine.output
  rw [sampleArrival_step table tick part inside]
  exact FragTable.onPart_first absent reused

/-- The repetition does not keep the entry of the first part alive. -/
theorem repeatedArrivals_handed :
    handed repeatedArrivals = [none, none, none] := by
  let zero : Fin maxTotalParts := ⟨0, by decide⟩
  let one : Fin maxTotalParts := ⟨1, by decide⟩
  have zeroInside : zero < sampleDatagram.parts := by
    rw [sampleDatagram_parts]
    decide
  have oneInside : one < sampleDatagram.parts := by
    rw [sampleDatagram_parts]
    decide
  rcases
    sampleArrival_starts zero zeroInside
      (fun _ => rfl : (FragTable.empty.expire 0).Absent sampleDatagram)
      ⟨⟨0, by decide⟩, rfl⟩ with
    ⟨slot, started, firstNothing⟩
  have repeated :
      FragTable.Tracks sampleDatagram slot {zero} 0
          (fragMachine.next
            (fragMachine.next FragTable.empty (sampleArrival 0 zero))
            (sampleArrival fragTimeoutTicks zero)) ∧
        fragMachine.output
          (fragMachine.next FragTable.empty (sampleArrival 0 zero))
          (sampleArrival fragTimeoutTicks zero) = none := by
    unfold Machine.output
    unfold Machine.next at started ⊢
    rw [sampleArrival_step _ fragTimeoutTicks zero zeroInside]
    exact
      started.onPart_repeated (by decide) (Finset.mem_singleton_self zero)
  rcases repeated.1.stale
      (by decide : fragTimeoutTicks < 2 * fragTimeoutTicks - 0) with
    ⟨absent, retired⟩
  rcases sampleArrival_starts one oneInside absent ⟨slot, retired⟩ with
    ⟨_, _, lastNothing⟩
  change
    [fragMachine.output FragTable.empty (sampleArrival 0 zero),
      fragMachine.output
        (fragMachine.next FragTable.empty (sampleArrival 0 zero))
        (sampleArrival fragTimeoutTicks zero),
      fragMachine.output
        (fragMachine.next
          (fragMachine.next FragTable.empty (sampleArrival 0 zero))
          (sampleArrival fragTimeoutTicks zero))
        (sampleArrival (2 * fragTimeoutTicks) one)] = _
  rw [firstNothing, repeated.2, lastNothing]

/--
With repetitions counted as arrivals, gaps of at most the timeout are not
enough for a datagram to be handed up.
-/
theorem repeatedPart_not_handed :
    ¬∀ (family : Set Datagram) (arrivals : List Arrival),
      Traffic family arrivals →
        (∀ buffer, some buffer ∈ handed arrivals →
          ∃ datagram ∈ family, buffer = datagram.bytes) ∧
        ∀ datagram ∈ family,
          Punctual datagram (ownArrivals datagram arrivals) arrivals →
            some datagram.bytes ∈ handed arrivals ∧
              (((ownArrivals datagram arrivals).map
                  Arrival.bytes).Nodup →
                (handed arrivals).count (some datagram.bytes) = 1) := by
  intro claimed
  have delivered :=
    (claimed {sampleDatagram} repeatedArrivals
      repeatedArrivals_traffic).2 sampleDatagram rfl
      repeatedArrivals_punctual
  have given := delivered.1
  rw [repeatedArrivals_handed] at given
  simp at given

end SlpClient.Tunnel
