import SlpClient.Ldn.JoinState
import SlpClient.Ldn.Effects

/-!
# Array accesses

Counts that arrive in frames and arguments drive three loops: the
confirmation of a sync, the membership query, both over the node table, and
the SSID comparison of `Scan`.  Each of them trusts its count.  All other
accesses stay in bounds in every run; these three do exactly when the count
fits or the loop stops before it leaves the array.
-/

namespace SlpClient.Ldn

open SlpClient.Lib

/--
The observer of array bounds.  A thread that blocks on its own lock makes no
further accesses.
-/
def boundsMonitor : Monitor where
  accessOk array first count := decide (first + count ≤ array.size)
  onRelock := true
  lenient _ _ _ inside := decide_eq_true inside

/-- Every access among these effects of a thread is in bounds. -/
def accessesInBounds (effects : List Effect) : Bool :=
  boundsMonitor.passes false effects

/-! ## The loops over the node table -/

/-- The search stays in the table: the count fits or an entry stops it. -/
def SearchInside (info : NetworkInfo) (wanted : NodeInfo → Bool) : Prop :=
  info.ldn.nodeCount.toNat ≤ nodeCountMax ∨
    ∃ index : Fin 8, wanted (info.ldn.nodes index) = true

/-- A search from inside the table. -/
theorem searchNodes_all_accepts (env : Env) (info : NetworkInfo)
    (wanted : NodeInfo → Bool) (first count : Nat)
    (start : first ≤ nodeCountMax) :
    (searchNodes env info wanted first count).2.all
        boundsMonitor.accepts = true ↔
      first + count ≤ nodeCountMax ∨
        ∃ index : Fin 8, first ≤ index.val ∧
          wanted (info.ldn.nodes index) = true := by
  induction count generalizing first with
  | zero => exact iff_of_true rfl (.inl start)
  | succ count induction =>
      unfold searchNodes
      by_cases inside : first < 8
      · have node :
            nodeAt env info first = info.ldn.nodes ⟨first, inside⟩ :=
          dif_pos inside
        have accepted :
            boundsMonitor.accepts (.access .nodes first 1) = true :=
          decide_eq_true
            (by simp only [ArrayRef.size, nodeCountMax]; omega)
        rw [node]
        cases found : wanted (info.ldn.nodes ⟨first, inside⟩) with
        | true =>
            refine iff_of_true ?_ (.inr ⟨⟨first, inside⟩, le_rfl, found⟩)
            simp [accepted]
        | false =>
            rw [if_neg Bool.false_ne_true, List.all_cons, accepted,
              Bool.true_and, induction (first + 1) inside]
            constructor
            · rintro (fits | ⟨index, later, stops⟩)
              · exact .inl (by omega)
              · exact .inr ⟨index, by omega, stops⟩
            · rintro (fits | ⟨index, later, stops⟩)
              · exact .inl (by omega)
              · refine .inr ⟨index, ?_, stops⟩
                by_contra same
                have equality : index = ⟨first, inside⟩ :=
                  Fin.ext (show index.val = first by omega)
                rw [equality, found] at stops
                exact Bool.false_ne_true stops
      · have rejected :
            boundsMonitor.accepts (.access .nodes first 1) = false :=
          decide_eq_false
            (by simp only [ArrayRef.size, nodeCountMax]; omega)
        refine iff_of_false ?_ ?_
        · split <;> simp [rejected]
        · rintro (fits | ⟨index, later, -⟩)
          · unfold nodeCountMax at fits
            omega
          · have bound := index.isLt
            omega

/-- A search over the whole count. -/
theorem searchNodes_inside_iff (env : Env) (info : NetworkInfo)
    (wanted : NodeInfo → Bool) :
    (searchNodes env info wanted 0 info.ldn.nodeCount.toNat).2.all
        boundsMonitor.accepts = true ↔
      SearchInside info wanted := by
  rw [searchNodes_all_accepts env info wanted 0 _ (Nat.zero_le _)]
  simp [SearchInside]

namespace LdnControl

/-- The membership query for this address stays in the table. -/
def QueryInside (control : LdnControl) (ip : UInt32) : Prop :=
  control.state = .accessPointCreated ∨ control.state = .station ∨
      control.state = .stationConnected →
    ip ≠ control.ipv4Address →
      SearchInside control.networkInfo (NodeInfo.connectedAs ip)

theorem queryOk_bounds_iff (control : LdnControl) (env : Env)
    (ip : UInt32) :
    control.QueryOk boundsMonitor env ip ↔ control.QueryInside ip := by
  unfold QueryOk QueryInside isKnownSessionPeer
  split
  · rename_i outside
    exact iff_of_true rfl fun session => by tauto
  · rename_i inSession
    split
    · rename_i own
      exact iff_of_true rfl fun _ other => (other own).elim
    · rename_i other
      rw [searchNodes_inside_iff]
      exact ⟨fun inside _ _ => inside, fun inside => inside (by tauto) other⟩

/-! ## The SSID comparison -/

/-- The results that the collecting loop of `Scan` looks at. -/
def looksAt (control : LdnControl) (filter : ScanFilter)
    (capacity : Nat) : List (Fin 8) → Nat → List NetworkInfo
  | [], _ => []
  | index :: rest, count =>
      if index.val < control.scanResultCount.toNat ∧ count < capacity then
        control.scanResults index ::
          control.looksAt filter capacity rest
            (if matchesFilter filter (control.scanResults index) then
              count + 1
            else count)
      else []

/-- The SSID comparison with this result stays in the arrays. -/
def SsidInside (filter : ScanFilter) (info : NetworkInfo) : Prop :=
  filter.flag &&& 16 ≠ 0 →
    filter.ssid.length = info.common.ssid.length →
      filter.ssid.length.toNat ≤ ssidLengthMax + 1

theorem ssidAccesses_inside_iff (filter : ScanFilter)
    (info : NetworkInfo) :
    (ssidAccesses filter info).all boundsMonitor.accepts = true ↔
      SsidInside filter info := by
  unfold ssidAccesses SsidInside
  split
  · rename_i compared
    simp [boundsMonitor, Monitor.accepts, ArrayRef.size, compared.1,
      compared.2]
  · rename_i skipped
    exact
      iff_of_true rfl fun flag same => (skipped ⟨flag, same⟩).elim

theorem collectScan_inside_iff (control : LdnControl)
    (filter : ScanFilter) (capacity : Nat) (indices : List (Fin 8))
    (count : Nat) :
    (control.collectScan filter capacity indices count).2.all
        boundsMonitor.accepts = true ↔
      ∀ info ∈ control.looksAt filter capacity indices count,
        SsidInside filter info := by
  induction indices generalizing count with
  | nil => simp [collectScan, looksAt]
  | cons index rest induction =>
      have ssid :=
        ssidAccesses_inside_iff filter (control.scanResults index)
      have stored :
          boundsMonitor.accepts (.access .scanResults index.val 1) =
            true := by
        have bound := index.isLt
        refine decide_eq_true ?_
        simp only [ArrayRef.size, maxScanResults]
        omega
      unfold collectScan looksAt
      split
      · rename_i visited
        have written :
            boundsMonitor.accepts
              (.access (.scanOut capacity) count 1) = true := by
          refine decide_eq_true ?_
          simp only [ArrayRef.size]
          omega
        dsimp only
        split
        · have tail := induction (count + 1)
          simp only [List.cons_append, List.all_cons, List.all_append,
            stored, written, Bool.true_and, Bool.and_eq_true, ssid, tail,
            List.forall_mem_cons]
        · have tail := induction count
          simp only [List.cons_append, List.all_cons, List.all_append,
            stored, Bool.true_and, Bool.and_eq_true, ssid, tail,
            List.forall_mem_cons]
      · simp

end LdnControl

/-! ## Steps and runs -/

namespace System

/-- What a step of the IPC thread needs to stay in bounds. -/
def IpcKeepsBounds (system : System) (env : Env) : Prop :=
  match system.phase with
  | .scanCollect filter capacity =>
      ∀ info ∈
          system.control.looksAt filter capacity (List.finRange 8) 0,
        LdnControl.SsidInside filter info
  | .connectSend hostIp _ =>
      returnsHome env hostIp = true → system.control.QueryInside hostIp
  | .connectWait hostIp _ iteration =>
      iteration % 50 = 49 → returnsHome env hostIp = true →
        system.control.QueryInside hostIp
  | _ => True

/--
What a step needs to stay in bounds: an applied sync whose count fits or that
lists this console, membership queries over a count that fits or that find
their entry, and SSID lengths that fit.
-/
def KeepsBounds (system : System) (input : Env × Event) : Prop :=
  match input.2 with
  | .ipc => IpcKeepsBounds system input.1
  | .frame _ payload =>
      ∀ info seq, syncOf payload = some (info, seq) →
        system.control.acceptsSync info seq = true →
        system.control.state = .station →
          SearchInside info
            (NodeInfo.connectedAs system.control.ipv4Address)
  | .knownPeer ip => system.control.QueryInside ip
  | _ => True

theorem stepOk_bounds_iff (system : System) (input : Env × Event) :
    StepOk boundsMonitor system input ↔ KeepsBounds system input := by
  rcases input with ⟨env, event⟩
  cases event with
  | command command =>
      exact iff_of_true (fun _ _ _ _ _ => rfl) trivial
  | ipc =>
      change
        IpcOk boundsMonitor system env ↔ IpcKeepsBounds system env
      unfold IpcOk IpcKeepsBounds
      cases system.phase with
      | scanCollect filter capacity =>
          exact LdnControl.collectScan_inside_iff ..
      | connectSend hostIp my =>
          simp only [LdnControl.queryOk_bounds_iff]
      | connectWait hostIp my iteration =>
          simp only [LdnControl.queryOk_bounds_iff]
      | _ => exact Iff.rfl
  | frame srcIp payload =>
      constructor
      · intro ok info seq carried accepted station
        rcases syncOf_eq_some carried with ⟨body, opened, length, rfl⟩
        have inside := ok .syncNetwork body seq opened
        exact
          (searchNodes_inside_iff env _ _).1
            (inside length accepted station)
      · intro keeps type body seq opened
        cases type with
        | syncNetwork =>
            intro length accepted station
            have carried :
                syncOf payload =
                  some (NetworkInfo.codec.decode body, seq) := by
              simp [syncOf, opened, length]
            exact
              (searchNodes_inside_iff env _ _).2
                (keeps _ seq carried accepted station)
        | scan => exact fun _ _ => rfl
        | scanResp => trivial
        | connect => trivial
        | relayHeartbeat => trivial
        | relayBye => trivial
  | tick => exact iff_of_true (fun _ _ _ => rfl) trivial
  | knownPeer ip => exact system.control.queryOk_bounds_iff env ip
  | enterLocalNetworkModePublic => exact Iff.rfl
  | exitLocalNetworkModePublic => exact Iff.rfl

/-- One step stays in bounds exactly when it meets `KeepsBounds`. -/
theorem accessesInBounds_output_iff {system : System}
    (bounded : system.control.tableView.Bounded) (input : Env × Event) :
    accessesInBounds (machine.output system input) = true ↔
      KeepsBounds system input :=
  (passes_output_iff boundsMonitor bounded (.inl rfl) input).trans
    (stepOk_bounds_iff system input)

/--
The runs all of whose accesses are in bounds are the runs whose steps all
meet `KeepsBounds`.
-/
theorem accessesInBounds_iff_keepsBounds
    (mtu : UInt32) (inputs : List (Env × Event)) :
    machine.EachStep
        (fun system input =>
          accessesInBounds (machine.output system input) = true)
        (initial mtu) inputs ↔
      machine.EachStep KeepsBounds (initial mtu) inputs := by
  constructor
  · intro inBounds
    refine
      Machine.eachStep_of_property
        (fun system input bounded _ => bounded_next system input bounded)
        ?_ (initial_bounded mtu) (fun _ _ => trivial) inBounds
    intro system input bounded _ step
    exact (accessesInBounds_output_iff bounded input).1 step
  · intro keeps
    refine
      Machine.eachStep_of_invariant
        (fun system input bounded _ => bounded_next system input bounded)
        ?_ (initial_bounded mtu) keeps
    intro system input bounded step
    exact (accessesInBounds_output_iff bounded input).2 step

/-- A network that claims 255 nodes, none of them this console. -/
def crowdedNetwork : NetworkInfo :=
  { sampleNetwork with
    ldn := { sampleNetwork.ldn with nodeCount := 255 } }

/-- A station reads behind the node table when such a network syncs. -/
theorem crowdedNetwork_out_of_bounds :
    machine.Reachable (initial 1400) stationSystem ∧
      accessesInBounds
        (machine.output stationSystem
          (Env.at 0,
            .frame 0x0A0D0003
              (syncArrival (Env.at 0) 0x0A0D0003 crowdedNetwork
                1).payload)) =
        false := by
  have reachable : machine.Reachable (initial 1400) stationSystem :=
    ⟨_, rfl⟩
  have bounded : stationSystem.control.tableView.Bounded :=
    reachable.invariant (initial_bounded 1400) bounded_next
  refine ⟨reachable, ?_⟩
  rw [← Bool.not_eq_true, accessesInBounds_output_iff bounded]
  intro keeps
  have inside :=
    keeps crowdedNetwork 1 (syncOf_syncArrival ..) rfl rfl
  rw [stationSystem_ipv4Address] at inside
  exact absurd inside (by unfold SearchInside; decide)

end System

end SlpClient.Ldn
