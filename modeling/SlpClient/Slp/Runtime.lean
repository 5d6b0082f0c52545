import SlpClient.Lib.Machine
import SlpClient.Slp.Client

/-!
# The relay runtime

The server list, the selected server, the client, and the thread that keeps
the relay alive and receives from it.  `Start` sets the login of the selected
server before it opens the client; opening clears the whole record of the
client, the login included.  So a running client never has one, and answers
no challenge.
-/

namespace SlpClient.Slp

open SlpClient.Lib
open SlpClient.Tunnel (Relayed slpClientSendRaw slpTypeAuthMe slpTypePing)

/-- An entry of the server list. -/
structure SlpServer where
  name : CString 32
  host : CString 128
  port : UInt16
  username : CString 64
  password : CString 64
deriving DecidableEq

/-- `SLPCFG_STATE_STOPPED` and `SLPCFG_STATE_RUNNING`. -/
inductive RuntimeState where
  | stopped
  | running
deriving DecidableEq

/-- `Runtime`, with the local counter of its thread. -/
structure Runtime where
  servers : List SlpServer
  selIndex : Int
  state : RuntimeState
  relayIp : UInt32
  client : Client
  keepaliveFails : Nat
  rxFrames : UInt32
  txFrames : UInt32

/-- What the system answers to `Start`. -/
structure StartEnv where
  resolved : Option UInt32
  socket : SocketEnv
  pingSends : Bool
  threadCreated : Bool

/-- What one pass of the thread finds. -/
structure Pass where
  keepaliveDue : Bool
  keepaliveSends : Bool
  reopened : SocketEnv
  received : Option (List UInt8)
  answerSends : Bool

/-- Requests of the overlay, and passes of the thread. -/
inductive RuntimeInput where
  | reloadServers (loaded : Option (List SlpServer))
  | selectServer (index : UInt32)
  | start (env : StartEnv)
  | stop
  | pass (pass : Pass)

/-- The result of a request, the datagrams sent, those among them that answer
a challenge, and the frame handed to the tunnel. -/
structure RuntimeOutput where
  returned : Int
  sent : List (List UInt8)
  answers : List (List UInt8)
  delivered : Option (UInt8 × List UInt8)

namespace RuntimeOutput

/-- A request that only returns something. -/
def result (returned : Int) : RuntimeOutput :=
  ⟨returned, [], [], none⟩

end RuntimeOutput

namespace Runtime

/-- Before anything happened; the object lies in zeroed memory. -/
def constructed : Runtime where
  servers := []
  selIndex := -1
  state := .stopped
  relayIp := 0
  client := { Client.zeroed with fd := -1 }
  keepaliveFails := 0
  rxFrames := 0
  txFrames := 0

/-- The size of the receive buffer. -/
def recvCapacity : Nat := 2048

/-- `ReloadServers`, for the list that the config file parses to. -/
def reloadServers (runtime : Runtime) (loaded : Option (List SlpServer)) :
    Runtime × RuntimeOutput :=
  match loaded with
  | none => (runtime, .result 0)
  | some servers =>
      ({ runtime with
          servers := servers
          selIndex :=
            if runtime.selIndex < 0 ∨
                runtime.selIndex ≥ servers.length then
              if servers.length > 0 then 0 else -1
            else runtime.selIndex },
        .result servers.length)

/-- `SelectServer`: the index is compared as a signed number. -/
def selectServer (runtime : Runtime) (index : UInt32) :
    Runtime × RuntimeOutput :=
  if index.toInt32.toInt ≥ runtime.servers.length then
    (runtime, .result 0)
  else ({ runtime with selIndex := index.toInt32.toInt }, .result 1)

/-- The selected entry, if the selection is one. -/
def selected (runtime : Runtime) : Option SlpServer :=
  if runtime.selIndex < 0 then none
  else runtime.servers[runtime.selIndex.toNat]?

/-- `Start`. -/
def start (sha1 : List UInt8 → Digest) (runtime : Runtime)
    (env : StartEnv) : Runtime × RuntimeOutput :=
  if runtime.state = .running then (runtime, .result 1)
  else
    match runtime.selected with
    | none => (runtime, .result 0)
    | some server =>
        let named :=
          slpClientSetCredentials sha1 runtime.client server.username
            server.password
        match
          slpClientOpen env.resolved env.socket server.host server.port
        with
        | none => ({ runtime with client := named }, .result 0)
        | some client =>
            let ping :=
              (slpClientSendRaw env.pingSends
                (slpFramePing 0xC0FFEE)).datagrams
            if env.threadCreated then
              ({ runtime with
                  client := client
                  relayIp := client.serverIp
                  keepaliveFails := 0
                  state := .running },
                { RuntimeOutput.result 1 with sent := ping })
            else
              ({ runtime with
                  client := slpClientClose client
                  relayIp := client.serverIp },
                { RuntimeOutput.result 0 with sent := ping })

/-- `Stop`, once the thread has left its loop. -/
def stop (runtime : Runtime) : Runtime × RuntimeOutput :=
  if runtime.state = .running then
    ({ runtime with
        state := .stopped
        client := slpClientClose runtime.client },
      .result 1)
  else (runtime, .result 1)

/-- The keepalive part of a pass. -/
def keepalive (runtime : Runtime) (pass : Pass) :
    Runtime × List (List UInt8) :=
  if pass.keepaliveDue then
    if pass.keepaliveSends then
      ({ runtime with
          txFrames := runtime.txFrames + 1
          keepaliveFails := 0 },
        [[slpTypeKeepalive]])
    else if runtime.keepaliveFails + 1 ≥ 3 then
      ({ runtime with
          keepaliveFails := 0
          client := slpClientReopen pass.reopened runtime.client }, [])
    else
      ({ runtime with keepaliveFails := runtime.keepaliveFails + 1 }, [])
  else (runtime, [])

/-- The receiving part of a pass: answers, and what goes to the tunnel. -/
def receive (sha1 : List UInt8 → Digest) (runtime : Runtime)
    (pass : Pass) :
    Runtime × List (List UInt8) × Option (UInt8 × List UInt8) :=
  match pass.received with
  | none => (runtime, [], none)
  | some datagram =>
      let frame := slpClientRecv recvCapacity datagram
      match slpFrameType frame with
      | none => (runtime, [], none)
      | some type =>
          if type = slpTypePing then (runtime, [], none)
          else if type = slpTypeAuthMe then
            (runtime,
              (slpClientHandleAuthMe sha1 pass.answerSends runtime.client
                frame.tail).datagrams,
              none)
          else
            ({ runtime with rxFrames := runtime.rxFrames + 1 }, [],
              if frame.length > 1 then some (type, frame.tail) else none)

/-- One pass of `RunLoop`. -/
def runLoop (sha1 : List UInt8 → Digest) (runtime : Runtime)
    (pass : Pass) : Runtime × RuntimeOutput :=
  let kept := runtime.keepalive pass
  let received := receive sha1 kept.1 pass
  (received.1,
    { returned := 0
      sent := kept.2 ++ received.2.1
      answers := received.2.1
      delivered := received.2.2 })

/-- The runtime as a machine; its thread runs while it is running. -/
def machine (sha1 : List UInt8 → Digest) :
    Machine Runtime RuntimeInput RuntimeOutput where
  step runtime input :=
    match input with
    | .reloadServers loaded => runtime.reloadServers loaded
    | .selectServer index => runtime.selectServer index
    | .start env => runtime.start sha1 env
    | .stop => runtime.stop
    | .pass pass =>
        if runtime.state = .running then runtime.runLoop sha1 pass
        else (runtime, .result 0)

/-! ## The login of a running client -/

/-- The server that this input starts the runtime on. -/
def startsOn (sha1 : List UInt8 → Digest) (runtime : Runtime)
    (input : RuntimeInput) : Option SlpServer :=
  if runtime.state = .stopped ∧
      ((machine sha1).next runtime input).state = .running then
    runtime.selected
  else none

variable {sha1 : List UInt8 → Digest}

/-- A started client was just opened. -/
theorem start_login {runtime : Runtime} (env : StartEnv)
    (login : runtime.state = .running → runtime.client.hasCredentials = false)
    (running : (runtime.start sha1 env).1.state = .running) :
    (runtime.start sha1 env).1.client.hasCredentials = false := by
  unfold start at running ⊢
  split
  · rename_i before
    exact login before
  · rename_i before
    rw [if_neg before] at running
    split
    · rename_i unselected
      rw [unselected] at running
      exact absurd running before
    · rename_i server chosen
      rw [chosen] at running
      dsimp only at running ⊢
      split
      · rename_i failed
        rw [failed] at running
        exact absurd running before
      · rename_i client opened
        rw [opened] at running
        dsimp only at running ⊢
        split
        · exact slpClientOpen_hasCredentials opened
        · rename_i unthreaded
          rw [if_neg unthreaded] at running
          exact absurd running before

theorem keepalive_login (runtime : Runtime) (pass : Pass) :
    (runtime.keepalive pass).1.client.hasCredentials =
        runtime.client.hasCredentials ∧
      (runtime.keepalive pass).1.state = runtime.state := by
  unfold keepalive
  split
  · split
    · exact ⟨rfl, rfl⟩
    · split
      · exact ⟨slpClientReopen_login .., rfl⟩
      · exact ⟨rfl, rfl⟩
  · exact ⟨rfl, rfl⟩

theorem receive_login (runtime : Runtime) (pass : Pass) :
    (runtime.receive sha1 pass).1.client = runtime.client ∧
      (runtime.receive sha1 pass).1.state = runtime.state := by
  unfold receive
  split
  · exact ⟨rfl, rfl⟩
  · dsimp only
    split
    · exact ⟨rfl, rfl⟩
    · split
      · exact ⟨rfl, rfl⟩
      · split <;> exact ⟨rfl, rfl⟩

/-- A running client has no login. -/
def LoginCleared (runtime : Runtime) : Prop :=
  runtime.state = .running → runtime.client.hasCredentials = false

theorem constructed_loginCleared : constructed.LoginCleared :=
  nofun

/-- No request and no pass gives a running client a login. -/
theorem LoginCleared.next {runtime : Runtime}
    (cleared : runtime.LoginCleared) (input : RuntimeInput) :
    ((machine sha1).next runtime input).LoginCleared := by
  cases input with
  | reloadServers loaded =>
      cases loaded with
      | none => exact cleared
      | some servers => exact cleared
  | selectServer index =>
      show (runtime.selectServer index).1.LoginCleared
      unfold selectServer
      split
      · exact cleared
      · exact cleared
  | start env => exact start_login env cleared
  | stop =>
      show runtime.stop.1.LoginCleared
      unfold stop
      split
      · exact nofun
      · exact cleared
  | pass pass =>
      show
        (if runtime.state = .running then runtime.runLoop sha1 pass
          else (runtime, .result 0)).1.LoginCleared
      split
      · rename_i running
        intro _
        have kept := keepalive_login runtime pass
        show
          (receive sha1 (runtime.keepalive pass).1
            pass).1.client.hasCredentials = false
        rw [(receive_login _ pass).1, kept.1]
        exact cleared running
      · exact cleared

/-- The login of a running client is cleared in every run. -/
theorem run_loginCleared (inputs : List RuntimeInput) :
    ((machine sha1).run constructed inputs).LoginCleared :=
  Machine.Reachable.invariant ⟨inputs, rfl⟩ constructed_loginCleared
    (fun _ input cleared => cleared.next input)

/-- A pass of a running client whose login is cleared answers nothing. -/
theorem LoginCleared.silent {runtime : Runtime}
    (cleared : runtime.LoginCleared) (pass : Pass) :
    ((machine sha1).output runtime (.pass pass)).answers = [] := by
  show
    (if runtime.state = .running then runtime.runLoop sha1 pass
      else (runtime, .result 0)).2.answers = []
  split
  · rename_i running
    have none : (runtime.keepalive pass).1.client.hasCredentials = false :=
      (keepalive_login runtime pass).1.trans (cleared running)
    show (receive sha1 (runtime.keepalive pass).1 pass).2.1 = []
    unfold receive
    split
    · rfl
    · dsimp only
      split
      · rfl
      · split
        · rfl
        · split
          · rw [slpClientHandleAuthMe_silent sha1 _ _ none]
          · rfl
  · rfl

/-! ## Challenges -/

/--
What a login promises.  With a user name, every challenge is answered with
the digest of the entry's password and the challenge, and the user name.
Without one, nothing is ever answered.
-/
def AnswersFor (sha1 : List UInt8 → Digest) (server : SlpServer)
    (runtime : Runtime) : Prop :=
  if server.username.bytes = [] then
    ∀ pass, ((machine sha1).output runtime (.pass pass)).answers = []
  else
    ∀ pass challenge,
      pass.received = some (slpTypeAuthMe :: 0 :: challenge) →
        pass.answerSends = true →
          ((machine sha1).output runtime (.pass pass)).answers =
            [authMeAnswer sha1 (sha1 server.password.bytes)
              server.username.bytes challenge]

/-- The entry that the client of a run was started on, while it runs. -/
def runsOn (sha1 : List UInt8 → Digest) (inputs : List RuntimeInput) :
    Option SlpServer :=
  if ((machine sha1).run constructed inputs).state = .running then
    (machine sha1).latest (startsOn sha1) none constructed inputs
  else none

/-- After this run, the login of the entry in use is kept. -/
def KeepsLogin (sha1 : List UInt8 → Digest) (inputs : List RuntimeInput) :
    Prop :=
  ∀ server, runsOn sha1 inputs = some server →
    AnswersFor sha1 server ((machine sha1).run constructed inputs)

/-- Only `Start` makes a client run, and only on a selected entry. -/
theorem selected_isSome_of_starts {runtime : Runtime}
    {input : RuntimeInput} (before : runtime.state = .stopped)
    (after : ((machine sha1).next runtime input).state = .running) :
    runtime.selected.isSome = true := by
  have idle : runtime.state ≠ .running := by
    rw [before]
    exact nofun
  cases input with
  | reloadServers loaded =>
      cases loaded with
      | none => exact absurd after idle
      | some servers => exact absurd after idle
  | selectServer index =>
      replace after : (runtime.selectServer index).1.state = .running := after
      unfold selectServer at after
      split at after
      · exact absurd after idle
      · exact absurd after idle
  | start env =>
      replace after : (runtime.start sha1 env).1.state = .running := after
      rw [Option.isSome_iff_ne_none]
      intro unselected
      rw [start, if_neg idle, unselected] at after
      exact idle after
  | stop =>
      replace after : runtime.stop.1.state = .running := after
      rw [stop, if_neg idle] at after
      exact absurd after idle
  | pass pass =>
      replace after :
          (if runtime.state = .running then runtime.runLoop sha1 pass
            else (runtime, .result 0)).1.state = .running := after
      rw [if_neg idle] at after
      exact absurd after idle

/-- While the client runs, the entry it was started on is known. -/
def StartNoted (known : Option SlpServer) (runtime : Runtime) : Prop :=
  runtime.state = .running → known.isSome = true

theorem StartNoted.next {known : Option SlpServer} {runtime : Runtime}
    (noted : StartNoted known runtime) (input : RuntimeInput) :
    StartNoted ((startsOn sha1 runtime input).or known)
      ((machine sha1).next runtime input) := by
  intro after
  rw [Option.isSome_or, Bool.or_eq_true]
  cases before : runtime.state with
  | stopped =>
      left
      rw [startsOn, if_pos ⟨before, after⟩]
      exact selected_isSome_of_starts before after
  | running => exact .inr (noted before)

/-- A client that runs was started on some entry. -/
theorem runsOn_isSome_iff (inputs : List RuntimeInput) :
    (runsOn sha1 inputs).isSome = true ↔
      ((machine sha1).run constructed inputs).state = .running := by
  constructor
  · intro known
    by_contra idle
    rw [runsOn, if_neg idle] at known
    nomatch known
  · intro running
    rw [runsOn, if_pos running]
    have initially : StartNoted none constructed := nofun
    have keeps :
        ∀ known runtime input, StartNoted known runtime → True →
          StartNoted ((startsOn sha1 runtime input).or known)
            ((machine sha1).next runtime input) :=
      fun _ _ input noted _ => noted.next input
    have conditions :
        (machine sha1).EachStep (fun _ _ => True) constructed inputs :=
      (machine sha1).eachStep_of_forall (fun _ _ => trivial) _ inputs
    have noted := Machine.latest_invariant keeps initially conditions
    exact noted running

/-- A silent client keeps the promise of an entry without a login only. -/
theorem LoginCleared.answersFor_iff {runtime : Runtime}
    (cleared : runtime.LoginCleared) (server : SlpServer) :
    AnswersFor sha1 server runtime ↔ server.username.bytes = [] := by
  unfold AnswersFor
  constructor
  · intro answers
    by_contra named
    rw [if_neg named] at answers
    have answered :=
      answers ⟨false, false, ⟨none, false⟩, some [slpTypeAuthMe, 0], true⟩
        [] rfl rfl
    rw [cleared.silent] at answered
    nomatch answered
  · intro unnamed
    rw [if_pos unnamed]
    exact cleared.silent

/--
After every run, the login of the entry in use is kept exactly when that
entry has none.
-/
theorem keepsLogin_iff (sha1 : List UInt8 → Digest)
    (inputs : List RuntimeInput) :
    KeepsLogin sha1 inputs ↔
      ∀ server, runsOn sha1 inputs = some server →
        server.username.bytes = [] := by
  have cleared : ((machine sha1).run constructed inputs).LoginCleared :=
    run_loginCleared inputs
  unfold KeepsLogin
  simp only [cleared.answersFor_iff]

/-- A relay at a literal address, with a login. -/
def guardedRelay : SlpServer where
  name := ⟨[114], by decide, by decide⟩
  host := ⟨[49, 46, 49, 46, 49, 46, 49], by decide, by decide⟩
  port := 11451
  username := ⟨[117], by decide, by decide⟩
  password := ⟨[112], by decide, by decide⟩

/-- The list with that entry is loaded and the client starts on it. -/
def guardedStart : List RuntimeInput :=
  [.reloadServers (some [guardedRelay]),
    .start ⟨some 0x01010101, ⟨some 3, true⟩, true, true⟩]

/-- A challenge of the relay meets silence. -/
theorem guardedStart_not_keepsLogin :
    ¬ KeepsLogin (fun _ _ => 0) guardedStart := by
  intro keeps
  have answers := keeps guardedRelay rfl
  rw [AnswersFor, if_neg (by decide)] at answers
  have answered :=
    answers ⟨false, false, ⟨none, false⟩, some [slpTypeAuthMe, 0, 7], true⟩
      [7] rfl rfl
  nomatch answered

end Runtime

end SlpClient.Slp
