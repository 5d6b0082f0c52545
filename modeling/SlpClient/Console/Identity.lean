import SlpClient.Ldn.Moves
import SlpClient.Slp.VirtualId

/-!
# One console, one virtual address

The tunnel, the manager of the proxy sockets, the control plane of LDN and
the runtime each ask `GetVirtualIp` on their own schedule and keep the
answer.  `Start` asks twice, once for the runtime and once for the tunnel and
the manager; `Initialize` asks again for LDN, and `tun::Init` for the tunnel.
The answers are the same as long as each call finds the octets that the first
one found or stored, or as long as each of them finds the network down.
-/

namespace SlpClient

open SlpClient.Lib
open SlpClient.Net (parseIp virtualIpText)
open SlpClient.Ldn (LdnControl Env)
open SlpClient.Slp

/-! ## The runtime at a start -/

namespace Slp.Runtime

/-- `Start` gets as far as its calls of `GetVirtualIp`. -/
def opens (runtime : Runtime) (env : StartEnv) : Bool :=
  match runtime.state, runtime.selected with
  | .stopped, some server =>
      (slpClientOpen env.resolved env.socket server.host server.port).isSome
  | _, _ => false

variable {sha1 : List UInt8 → Digest} {runtime : Runtime} {env : StartEnv}

theorem stopped_of_opens (opened : runtime.opens env = true) :
    runtime.state = .stopped := by
  cases state : runtime.state with
  | stopped => rfl
  | running => simp [opens, state] at opened

/-- A start that opens the client runs if its thread could be created. -/
theorem start_state_of_opens (opened : runtime.opens env = true) :
    (runtime.start sha1 env).1.state =
      if env.threadCreated then .running else .stopped := by
  have stopped := stopped_of_opens opened
  unfold opens at opened
  unfold start
  rw [if_neg (by rw [stopped]; decide)]
  rw [stopped] at opened
  cases chosen : runtime.selected with
  | none => simp [chosen] at opened
  | some server =>
      simp only [chosen] at opened ⊢
      rcases Option.isSome_iff_exists.mp opened with ⟨client, found⟩
      simp only [found]
      split
      · rfl
      · exact stopped

/-- Any other start leaves the state alone. -/
theorem start_state_of_not_opens (unopened : runtime.opens env = false) :
    (runtime.start sha1 env).1.state = runtime.state := by
  unfold opens at unopened
  unfold start
  split
  · rfl
  · next idle =>
      have stopped : runtime.state = .stopped := by
        cases state : runtime.state with
        | stopped => rfl
        | running => exact absurd state idle
      cases chosen : runtime.selected with
      | none => rfl
      | some server =>
          simp only [stopped, chosen, Option.isSome_eq_false_iff,
            Option.isNone_iff_eq_none] at unopened
          simp only [unopened]

theorem stop_state : runtime.stop.1.state = .stopped := by
  unfold stop
  split
  · rfl
  · next idle =>
      cases state : runtime.state with
      | stopped => rfl
      | running => exact absurd state idle

theorem reloadServers_state (loaded : Option (List SlpServer)) :
    (runtime.reloadServers loaded).1.state = runtime.state := by
  cases loaded <;> rfl

theorem selectServer_state (index : UInt32) :
    (runtime.selectServer index).1.state = runtime.state := by
  unfold selectServer
  split <;> rfl

end Slp.Runtime

/-! ## Who keeps the address -/

/-- The file of the octets, and everyone who keeps an address.  The last field
says whether LDN was initialized since the runtime was started. -/
structure Identity where
  idFile : Option (List UInt8)
  runtime : Runtime
  reported : List Char
  localIp : UInt32
  managerIp : UInt32
  control : LdnControl
  initialized : Bool

/-- The calls, each with what the system answers to it. -/
inductive IdentityInput where
  | tunInit (id : IdEnv)
  | initializeLdn (env : Env) (id : IdEnv)
  | start (env : StartEnv) (first second : IdEnv)
  | stop
  | reloadServers (loaded : Option (List SlpServer))
  | selectServer (index : UInt32)

namespace Identity

/-- Before anything happened, with whatever file there is. -/
def constructed (idFile : Option (List UInt8)) (mtu : UInt32) :
    Identity where
  idFile := idFile
  runtime := .constructed
  reported := []
  localIp := 0
  managerIp := 0
  control := .constructed mtu
  initialized := false

/-- The address of a text, or the fallback when it is none. -/
def addressOrDefault (octets : Octets) : UInt32 :=
  if parseIp (virtualIpText octets) = 0 then 0x0A0D2502
  else parseIp (virtualIpText octets)

/-- `tun::Init`. -/
def tunInit (identity : Identity) (id : IdEnv) : Identity :=
  let found := getVirtualIp id identity.idFile
  { identity with
    idFile := found.2
    localIp := addressOrDefault found.1
    managerIp := addressOrDefault found.1 }

/-- `RefreshLocalIp`. -/
def refreshLocalIp (identity : Identity) (id : IdEnv) : Identity :=
  let found := getVirtualIp id identity.idFile
  let fresh := parseIp (virtualIpText found.1)
  if fresh = 0 ∨ fresh = identity.localIp then
    { identity with idFile := found.2 }
  else
    { identity with
      idFile := found.2
      localIp := fresh
      managerIp := fresh }

/-- `LdnControl::Initialize`. -/
def initializeLdn (identity : Identity) (env : Env) (id : IdEnv) : Identity :=
  let found := getVirtualIp id identity.idFile
  { identity with
    idFile := found.2
    control :=
      (identity.control.initializeLdn
        { env with virtualOctets := found.1 }).control
    initialized := true }

/-- `Runtime::Start`. -/
def start (sha1 : List UInt8 → Digest) (identity : Identity)
    (env : StartEnv) (first second : IdEnv) : Identity :=
  let started :=
    { identity with runtime := (identity.runtime.start sha1 env).1 }
  if identity.runtime.opens env then
    let found := getVirtualIp first identity.idFile
    { started with
      idFile := found.2
      reported := virtualIpText found.1
      initialized := false }.refreshLocalIp second
  else started

/-- All calls, in any order. -/
def machine (sha1 : List UInt8 → Digest) :
    Machine Identity IdentityInput Unit where
  step identity input :=
    (match input with
      | .tunInit id => identity.tunInit id
      | .initializeLdn env id => identity.initializeLdn env id
      | .start env first second => identity.start sha1 env first second
      | .stop => { identity with runtime := identity.runtime.stop.1 }
      | .reloadServers loaded =>
          { identity with
            runtime := (identity.runtime.reloadServers loaded).1 }
      | .selectServer index =>
          { identity with
            runtime := (identity.runtime.selectServer index).1 },
      ())

/-- From a successful start and the first initialization after it until the
next stop, everyone has the same address. -/
def OneAddress (identity : Identity) : Prop :=
  identity.runtime.state = .running → identity.initialized = true →
    parseIp identity.reported = identity.localIp ∧
      identity.managerIp = identity.localIp ∧
      identity.control.ipv4Address = identity.localIp

/-! ## Calls that agree -/

/-- A call reports what the runtime reports: the fallback again, because it
finds neither octets nor the network; or else the octets of the file. -/
def Repeats (identity : Identity) (id : IdEnv) : Prop :=
  if identity.reported = virtualIpText defaultOctets then
    readPersistedVirtualOctets id.reads identity.idFile = none ∧
      id.nifm = false
  else id.reads = true

/-- The two calls of a start agree: the first finds octets or stores those it
draws, and the second can read the file; or neither finds octets or the
network. -/
def StartsAlike (identity : Identity) (first second : IdEnv) : Prop :=
  ((readPersistedVirtualOctets first.reads identity.idFile ≠ none ∨
        (first.nifm = true ∧ first.persist.Stores identity.idFile)) ∧
      second.reads = true) ∨
    ((readPersistedVirtualOctets first.reads identity.idFile = none ∧
        first.nifm = false) ∧
      readPersistedVirtualOctets second.reads identity.idFile = none ∧
      second.nifm = false)

/-- The calls of a start that succeeds agree, and every call until the next
stop repeats them. -/
def KeepsAddress (identity : Identity) : IdentityInput → Prop
  | .tunInit id => identity.runtime.state = .running → identity.Repeats id
  | .initializeLdn _ id =>
      identity.runtime.state = .running → identity.Repeats id
  | .start env first second =>
      identity.runtime.opens env = true → env.threadCreated = true →
        identity.StartsAlike first second
  | _ => True

/-! ## What the calls keep -/

/-- The octets that a running console goes by: the runtime, the tunnel and
LDN, once it was initialized, have their address, and they are the fallback
or stand in the file. -/
structure GoesBy (identity : Identity) (octets : Octets) : Prop where
  reported : identity.reported = virtualIpText octets
  localIp : identity.localIp = parseIp (virtualIpText octets)
  control :
    identity.initialized = true →
      identity.control.ipv4Address = parseIp (virtualIpText octets)
  source :
    octets = defaultOctets ∨
      (octets.Free ∧
        readPersistedVirtualOctets true identity.idFile = some octets)

/-- The tunnel and the manager have one address, and a running console goes by
some octets. -/
structure Sound (identity : Identity) : Prop where
  manager : identity.managerIp = identity.localIp
  running :
    identity.runtime.state = .running → ∃ octets, identity.GoesBy octets

variable {identity : Identity} {octets : Octets}

theorem parseIp_virtualIpText_ne_zero (octets : Octets) :
    parseIp (virtualIpText octets) ≠ 0 := by
  have first : octets.1.toNat < 256 := octets.1.toNat_lt
  have second : octets.2.toNat < 256 := octets.2.toNat_lt
  rw [Net.parseIp_virtualIpText]
  intro zero
  have value := congrArg UInt32.toNat zero
  rw [UInt32.toNat_ofNat', UInt32.toNat_zero] at value
  omega

theorem addressOrDefault_eq (octets : Octets) :
    addressOrDefault octets = parseIp (virtualIpText octets) :=
  if_neg (parseIp_virtualIpText_ne_zero octets)

theorem free_of_virtualIpText_ne {octets : Octets} (free : octets.Free) :
    virtualIpText octets ≠ virtualIpText defaultOctets := by
  intro same
  have address := congrArg parseIp same
  rw [Net.parseIp_virtualIpText, Net.parseIp_virtualIpText] at address
  have first : octets.1.toNat < 256 := octets.1.toNat_lt
  have second : octets.2.toNat < 256 := octets.2.toNat_lt
  have value := congrArg UInt32.toNat address
  simp only [UInt32.toNat_ofNat', defaultOctets] at value
  have reserved : octets.1.toNat = 37 := by
    simp at value
    omega
  simp [Octets.Free, isReservedVirtualOctet, reserved] at free

theorem OneAddress.of_sound (sound : identity.Sound) :
    identity.OneAddress := by
  intro running initialized
  rcases sound.running running with ⟨octets, goesBy⟩
  refine ⟨?_, sound.manager, ?_⟩
  · rw [goesBy.reported, goesBy.localIp]
  · rw [goesBy.control initialized, goesBy.localIp]

/-- A call that repeats the others reports the same octets and leaves the file
as it is. -/
theorem GoesBy.getVirtualIp_of_repeats (goesBy : identity.GoesBy octets)
    {id : IdEnv} (again : identity.Repeats id) :
    getVirtualIp id identity.idFile = (octets, identity.idFile) := by
  unfold Repeats at again
  rcases goesBy.source with rfl | ⟨free, stored⟩
  · rw [if_pos goesBy.reported] at again
    exact getVirtualIp_of_down again.1 again.2
  · rw [goesBy.reported, if_neg (free_of_virtualIpText_ne free)] at again
    rw [← again] at stored
    exact getVirtualIp_of_read stored

theorem Sound.tunInit (sound : identity.Sound) {id : IdEnv}
    (keeps : identity.runtime.state = .running → identity.Repeats id) :
    (identity.tunInit id).Sound where
  manager := rfl
  running running := by
    rcases sound.running running with ⟨octets, goesBy⟩
    have again := goesBy.getVirtualIp_of_repeats (keeps running)
    refine ⟨octets, ?_⟩
    unfold Identity.tunInit
    rw [again]
    exact
      { reported := goesBy.reported
        localIp := addressOrDefault_eq octets
        control := goesBy.control
        source := goesBy.source }

theorem initializeLdn_ipv4Address (control : LdnControl) (env : Env) :
    (control.initializeLdn env).control.ipv4Address =
      addressOrDefault env.virtualOctets := by
  have entered (control : LdnControl) :
      (control.setState .initialized).ipv4Address = control.ipv4Address := by
    have kept :=
      congrArg LdnControl.ipv4Address (control.core_setState .initialized)
    exact kept
  have left (control : LdnControl) :
      (control.leaveLocalNetworkMode env).ipv4Address =
        control.ipv4Address := by
    have kept :=
      congrArg LdnControl.ipv4Address
        (control.core_leaveLocalNetworkMode env)
    exact kept
  unfold LdnControl.initializeLdn
  dsimp only
  rw [LdnControl.answer_control, entered]
  exact left _

theorem Sound.initializeLdn (sound : identity.Sound) {env : Env} {id : IdEnv}
    (keeps : identity.runtime.state = .running → identity.Repeats id) :
    (identity.initializeLdn env id).Sound where
  manager := sound.manager
  running running := by
    rcases sound.running running with ⟨octets, goesBy⟩
    have again := goesBy.getVirtualIp_of_repeats (keeps running)
    refine ⟨octets, ?_⟩
    unfold Identity.initializeLdn
    rw [again]
    exact
      { reported := goesBy.reported
        localIp := goesBy.localIp
        control := fun _ => by
          rw [initializeLdn_ipv4Address]
          exact addressOrDefault_eq octets
        source := goesBy.source }

/-- `RefreshLocalIp` brings the tunnel and the manager to the address it
finds. -/
theorem refreshLocalIp_spec (identity : Identity) (id : IdEnv) :
    (identity.refreshLocalIp id).localIp =
        parseIp (virtualIpText (getVirtualIp id identity.idFile).1) ∧
      (identity.managerIp = identity.localIp →
        (identity.refreshLocalIp id).managerIp =
          (identity.refreshLocalIp id).localIp) ∧
      (identity.refreshLocalIp id).idFile =
        (getVirtualIp id identity.idFile).2 ∧
      (identity.refreshLocalIp id).reported = identity.reported ∧
      (identity.refreshLocalIp id).runtime = identity.runtime ∧
      (identity.refreshLocalIp id).initialized = identity.initialized := by
  unfold refreshLocalIp
  dsimp only
  split
  · next same =>
      have equal :=
        same.resolve_left (parseIp_virtualIpText_ne_zero _)
      exact ⟨equal.symm, fun manager => manager, rfl, rfl, rfl, rfl⟩
  · exact ⟨rfl, fun _ => rfl, rfl, rfl, rfl, rfl⟩

/-- The two calls of a start agree. -/
theorem StartsAlike.agree {first second : IdEnv}
    (alike : identity.StartsAlike first second) :
    ∃ octets, (getVirtualIp first identity.idFile).1 = octets ∧
      getVirtualIp second (getVirtualIp first identity.idFile).2 =
        (octets, (getVirtualIp first identity.idFile).2) ∧
      (octets = defaultOctets ∨
        (octets.Free ∧
          readPersistedVirtualOctets true
              (getVirtualIp first identity.idFile).2 =
            some octets)) := by
  rcases alike with ⟨settles, reads⟩ | ⟨⟨unread, down⟩, unreadAgain, downAgain⟩
  · rcases getVirtualIp_settles settles with ⟨free, stored⟩
    refine ⟨_, rfl, ?_, .inr ⟨free, stored⟩⟩
    rw [← reads] at stored
    exact getVirtualIp_of_read stored
  · rw [getVirtualIp_of_down unread down]
    exact ⟨_, rfl, getVirtualIp_of_down unreadAgain downAgain, .inl rfl⟩

variable {sha1 : List UInt8 → Digest}

theorem Sound.start (sound : identity.Sound) {env : StartEnv}
    {first second : IdEnv}
    (keeps :
      identity.runtime.opens env = true → env.threadCreated = true →
        identity.StartsAlike first second) :
    (identity.start sha1 env first second).Sound := by
  unfold Identity.start
  dsimp only
  split
  · next opened =>
      rcases refreshLocalIp_spec _ second with
        ⟨localIp, manager, idFile, reported, runtime, initialized⟩
      refine ⟨manager sound.manager, fun running => ?_⟩
      rw [runtime, Runtime.start_state_of_opens opened] at running
      have created : env.threadCreated = true := by
        by_contra failed
        rw [if_neg failed] at running
        nomatch running
      rcases StartsAlike.agree (keeps opened created) with
        ⟨octets, found, again, source⟩
      refine ⟨octets, ?_, ?_, ?_, ?_⟩
      · rw [reported, found]
      · rw [localIp, again]
      · rw [initialized]
        exact fun never => nomatch never
      · rw [idFile, again]
        exact source
  · next unopened =>
      refine ⟨sound.manager, fun running => ?_⟩
      rw [Runtime.start_state_of_not_opens (by simpa using unopened)]
        at running
      rcases sound.running running with ⟨octets, goesBy⟩
      exact ⟨octets, goesBy.reported, goesBy.localIp, goesBy.control,
        goesBy.source⟩

/-- A change of the runtime that does not start it keeps all addresses. -/
theorem Sound.withRuntime (sound : identity.Sound) {runtime : Runtime}
    (before :
      runtime.state = .running → identity.runtime.state = .running) :
    { identity with runtime := runtime }.Sound where
  manager := sound.manager
  running running := by
    rcases sound.running (before running) with ⟨octets, goesBy⟩
    exact ⟨octets, goesBy.reported, goesBy.localIp, goesBy.control,
      goesBy.source⟩

theorem Sound.next (sound : identity.Sound) {input : IdentityInput}
    (keeps : identity.KeepsAddress input) :
    ((machine sha1).next identity input).Sound := by
  cases input with
  | tunInit id => exact sound.tunInit keeps
  | initializeLdn env id => exact sound.initializeLdn keeps
  | start env first second => exact sound.start keeps
  | stop =>
      apply sound.withRuntime
      intro running
      rw [Runtime.stop_state] at running
      nomatch running
  | reloadServers loaded =>
      apply sound.withRuntime
      intro running
      rwa [Runtime.reloadServers_state] at running
  | selectServer index =>
      apply sound.withRuntime
      intro running
      rwa [Runtime.selectServer_state] at running

theorem sound_constructed (idFile : Option (List UInt8)) (mtu : UInt32) :
    (constructed idFile mtu).Sound where
  manager := rfl
  running running := nomatch running

/--
In every run in which the calls of each successful start agree and every call
until the next stop repeats them, everyone has one address.
-/
theorem oneAddress_of_keepsAddress (sha1 : List UInt8 → Digest)
    (idFile : Option (List UInt8)) (mtu : UInt32)
    (inputs : List IdentityInput)
    (keeps :
      (machine sha1).EachStep KeepsAddress (constructed idFile mtu) inputs) :
    (machine sha1).EachState OneAddress (constructed idFile mtu) inputs :=
  Machine.EachState.mono (fun _ => OneAddress.of_sound)
    (Machine.eachState_of_eachStep
      (fun _ _ sound keeps => sound.next keeps)
      (sound_constructed idFile mtu) keeps)

/-! ## A card that cannot be written -/

/-- A relay at a literal address, without a login. -/
def openRelay : SlpServer :=
  { Runtime.guardedRelay with
    username := Client.zeroed.username
    password := Client.zeroed.username }

/-- The relay resolves, its socket opens, and the thread is created. -/
def startEnv : StartEnv :=
  ⟨some 0x01010101, ⟨some 3, true⟩, true, true⟩

/-- The network is up; the file can be read, and written if `stored`. -/
def idEnv (stored : Bool) (drawn : Octets) : IdEnv where
  reads := true
  nifm := true
  draws _ := drawn
  persist := ⟨true, stored, true, true, []⟩

/-- The runtime starts, and LDN is initialized; each call would draw octets of
its own. -/
def firstRun (stored : Bool) : List IdentityInput :=
  [.reloadServers (some [openRelay]),
    .start startEnv (idEnv stored (5, 5)) (idEnv stored (6, 6)),
    .initializeLdn (Env.at 0) (idEnv stored (7, 7))]

/-- On a card that can be written all calls agree. -/
theorem firstRun_oneAddress :
    (machine fun _ _ => 0).EachState OneAddress (constructed none 1400)
      (firstRun true) := by
  refine oneAddress_of_keepsAddress _ none 1400 _ ?_
  refine ⟨trivial, ?_, ?_, trivial⟩
  · intro _ _
    refine .inl ⟨.inr ⟨rfl, .inr rfl, rfl, rfl, rfl⟩, rfl⟩
  · intro _
    unfold Repeats
    rw [if_neg (by decide)]
    rfl

/-- On a card that cannot be written the tunnel has another address than the
runtime reports, and LDN a third. -/
theorem firstRun_not_oneAddress :
    ¬ (machine fun _ _ => 0).EachState OneAddress (constructed none 1400)
        (firstRun false) := by
  intro always
  have last := always.last rfl rfl
  revert last
  decide

end Identity

end SlpClient
