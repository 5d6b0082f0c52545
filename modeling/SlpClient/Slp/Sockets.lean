import SlpClient.Lib.Handles
import SlpClient.Slp.Runtime

/-!
# The sockets of the runtime

Opening, reopening and closing the client ask the system for sockets and give
them back.  Whatever succeeds or fails, the runtime holds exactly one socket
while it runs and none while it is stopped; it never closes one twice, and it
never closes one that it was not given.
-/

namespace SlpClient.Slp

open SlpClient.Lib
open SlpClient.Lib.Handles (Call Fresh Lawful heldAfter)

/-- A socket of the system is asked for and bound; without a port it is given
back at once. -/
def SocketEnv.calls (env : SocketEnv) : List (Call Int) :=
  match env.socket with
  | none => []
  | some fd =>
      if env.bound then [.opens fd] else [.opens fd, .closes fd]

/-- The socket that a client holds. -/
def Client.held (client : Client) : List Int :=
  if client.fd ≥ 0 then [client.fd] else []

/-- The calls of `slpClientOpen`. -/
def slpClientOpenCalls (resolved : Option UInt32) (env : SocketEnv) :
    List (Call Int) :=
  match resolved with
  | none => []
  | some _ => env.calls

/-- The calls of `slpClientClose`. -/
def slpClientCloseCalls (client : Client) : List (Call Int) :=
  if client.fd ≥ 0 then [.closes client.fd] else []

/-- The calls of `slpClientReopen`: the old socket goes when there is a new
one. -/
def slpClientReopenCalls (env : SocketEnv) (client : Client) :
    List (Call Int) :=
  if client.serverIp = 0 ∨ client.serverPort = 0 then []
  else
    match env.opened with
    | none => env.calls
    | some _ => env.calls ++ slpClientCloseCalls client

namespace Runtime

/-- The calls of `Start`. -/
def startCalls (runtime : Runtime) (env : StartEnv) : List (Call Int) :=
  if runtime.state = .running then []
  else
    match runtime.selected with
    | none => []
    | some server =>
        match
          slpClientOpen env.resolved env.socket server.host server.port
        with
        | none => slpClientOpenCalls env.resolved env.socket
        | some client =>
            slpClientOpenCalls env.resolved env.socket ++
              if env.threadCreated then [] else slpClientCloseCalls client

/-- The calls of `Stop`. -/
def stopCalls (runtime : Runtime) : List (Call Int) :=
  if runtime.state = .running then slpClientCloseCalls runtime.client
  else []

/-- The calls of a pass: only a third failed keepalive asks for a socket. -/
def keepaliveCalls (runtime : Runtime) (pass : Pass) : List (Call Int) :=
  if pass.keepaliveDue then
    if pass.keepaliveSends then []
    else if runtime.keepaliveFails + 1 ≥ 3 then
      slpClientReopenCalls pass.reopened runtime.client
    else []
  else []

/-- The calls of a request or a pass. -/
def socketCalls (runtime : Runtime) : RuntimeInput → List (Call Int)
  | .reloadServers _ => []
  | .selectServer _ => []
  | .start env => runtime.startCalls env
  | .stop => runtime.stopCalls
  | .pass pass =>
      if runtime.state = .running then runtime.keepaliveCalls pass else []

/-- A socket is held while the runtime runs, and only then. -/
def HoldsSocket (runtime : Runtime) : Prop :=
  runtime.client.fd ≥ 0 ↔ runtime.state = .running

/-- What a runtime holds. -/
def held (runtime : Runtime) : List Int := runtime.client.held

end Runtime

/-! ## The calls of the client -/

theorem Client.held_of_closed (client : Client) :
    (slpClientClose client).held = [] ∧ (slpClientClose client).fd < 0 := by
  unfold slpClientClose Client.held
  split
  · exact ⟨rfl, show (-1 : Int) < 0 by decide⟩
  next closed => exact ⟨rfl, Int.not_le.mp closed⟩

theorem slpClientOpen_eq_some_iff {resolved : Option UInt32}
    {env : SocketEnv} {host : CString 128} {port : UInt16}
    {client : Client}
    (opened : slpClientOpen resolved env host port = some client) :
    ∃ fd : Nat,
      env.socket = some fd ∧ env.bound = true ∧ client.fd = fd ∧
        slpClientOpenCalls resolved env = [.opens (fd : Int)] := by
  unfold slpClientOpen at opened
  split at opened
  · contradiction
  next ip =>
    split at opened
    · contradiction
    next fd socket =>
      rw [Option.some.injEq] at opened
      unfold SocketEnv.opened at socket
      split at socket
      · contradiction
      next fd' asked =>
        split at socket
        next bound =>
          rw [Option.some.injEq] at socket
          subst socket
          refine ⟨fd', asked, bound, ?_, ?_⟩
          · rw [← opened]
          · unfold slpClientOpenCalls SocketEnv.calls
            rw [asked]
            exact if_pos bound
        · contradiction

/-- A socket without a port is given back at once. -/
theorem SocketEnv.calls_unopened {env : SocketEnv} {held : List Int}
    (unopened : env.opened = none) :
    Lawful held env.calls ∧ heldAfter held env.calls = held := by
  unfold SocketEnv.opened at unopened
  unfold SocketEnv.calls
  cases asked : env.socket with
  | none => exact ⟨trivial, rfl⟩
  | some fd =>
      rw [asked] at unopened
      cases bound : env.bound with
      | true =>
          rw [bound] at unopened
          contradiction
      | false =>
          refine ⟨⟨List.mem_cons_self, trivial⟩, ?_⟩
          exact List.erase_cons_head ..

theorem SocketEnv.calls_opened {env : SocketEnv} {fd : Nat}
    (opened : env.opened = some fd) :
    env.calls = [.opens (fd : Int)] := by
  unfold SocketEnv.opened at opened
  unfold SocketEnv.calls
  cases asked : env.socket with
  | none =>
      rw [asked] at opened
      contradiction
  | some other =>
      rw [asked] at opened
      cases bound : env.bound with
      | true =>
          rw [bound] at opened
          rw [Option.some.inj opened]
          rfl
      | false =>
          rw [bound] at opened
          contradiction

theorem slpClientOpen_eq_none {resolved : Option UInt32}
    {env : SocketEnv} {host : CString 128} {port : UInt16}
    {held : List Int}
    (failed : slpClientOpen resolved env host port = none) :
    Lawful held (slpClientOpenCalls resolved env) ∧
      heldAfter held (slpClientOpenCalls resolved env) = held := by
  unfold slpClientOpen at failed
  unfold slpClientOpenCalls
  cases resolved with
  | none => exact ⟨trivial, rfl⟩
  | some ip =>
      apply SocketEnv.calls_unopened
      cases opened : env.opened with
      | none => rfl
      | some fd =>
          rw [opened] at failed
          contradiction

theorem Client.held_of_open {client : Client} (opened : client.fd ≥ 0) :
    client.held = [client.fd] :=
  if_pos opened

theorem Client.held_of_shut {client : Client} (shut : ¬ client.fd ≥ 0) :
    client.held = [] :=
  if_neg shut

/-- Closing the client gives back what it holds. -/
theorem slpClientClose_lawful (client : Client) :
    Lawful client.held (slpClientCloseCalls client) ∧
      heldAfter client.held (slpClientCloseCalls client) = [] := by
  unfold Client.held slpClientCloseCalls
  split
  · refine ⟨⟨List.mem_cons_self, trivial⟩, ?_⟩
    exact List.erase_cons_head ..
  · exact ⟨trivial, rfl⟩

/-- Reopening replaces the socket, or keeps the old one. -/
theorem slpClientReopen_lawful {env : SocketEnv} {client : Client}
    (opened : client.fd ≥ 0)
    (fresh : Fresh client.held (slpClientReopenCalls env client)) :
    (Lawful client.held (slpClientReopenCalls env client) ∧
      heldAfter client.held (slpClientReopenCalls env client) =
        (slpClientReopen env client).held) ∧
      (slpClientReopen env client).fd ≥ 0 := by
  unfold slpClientReopenCalls slpClientReopen at *
  by_cases never : client.serverIp = 0 ∨ client.serverPort = 0
  · rw [if_pos never, if_pos never]
    exact ⟨⟨trivial, rfl⟩, opened⟩
  · rw [if_neg never] at fresh
    rw [if_neg never, if_neg never]
    cases asked : env.opened with
    | none => exact ⟨SocketEnv.calls_unopened asked, opened⟩
    | some fd =>
        rw [asked] at fresh
        dsimp only at fresh ⊢
        rw [SocketEnv.calls_opened asked, Client.held_of_open opened,
          slpClientCloseCalls, if_pos opened] at *
        have apart : (fd : Int) ≠ client.fd := fun same =>
          fresh.1 (by rw [same]; exact List.mem_cons_self)
        refine ⟨⟨⟨?_, trivial⟩, ?_⟩, Int.natCast_nonneg fd⟩
        · exact List.mem_cons_of_mem _ List.mem_cons_self
        · show ([(fd : Int), client.fd].erase client.fd) = _
          rw [List.erase_cons_tail (by simpa using apart),
            List.erase_cons_head]
          exact (if_pos (Int.natCast_nonneg fd)).symm

/-! ## The calls of the runtime -/

namespace Runtime

variable {sha1 : List UInt8 → Digest} {runtime : Runtime}

theorem start_sockets (env : StartEnv) (holds : runtime.HoldsSocket) :
    (Lawful runtime.held (runtime.startCalls env) ∧
      heldAfter runtime.held (runtime.startCalls env) =
        (runtime.start sha1 env).1.held) ∧
      (runtime.start sha1 env).1.HoldsSocket := by
  unfold startCalls start
  by_cases running : runtime.state = .running
  · rw [if_pos running, if_pos running]
    exact ⟨⟨trivial, rfl⟩, holds⟩
  · have nothing : runtime.held = [] :=
      Client.held_of_shut (mt holds.mp running)
    rw [if_neg running, if_neg running]
    cases chosen : runtime.selected with
    | none => exact ⟨⟨trivial, rfl⟩, holds⟩
    | some server =>
        dsimp only
        cases outcome :
            slpClientOpen env.resolved env.socket server.host
              server.port with
        | none =>
            rcases slpClientOpen_eq_none outcome with ⟨lawful, held⟩
            have same :
                (slpClientSetCredentials sha1 runtime.client
                    server.username server.password).fd =
                  runtime.client.fd := by
              unfold slpClientSetCredentials
              split <;> rfl
            refine ⟨⟨lawful, held.trans ?_⟩, ?_⟩
            · unfold Runtime.held Client.held
              rw [same]
            · unfold HoldsSocket
              dsimp only
              rw [same]
              exact holds
        | some client =>
            rcases slpClientOpen_eq_some_iff outcome with
              ⟨fd, -, -, own, calls⟩
            rw [calls, nothing]
            dsimp only
            have positive : client.fd ≥ 0 := by
              rw [own]
              exact Int.natCast_nonneg fd
            by_cases created : env.threadCreated = true
            · rw [if_pos created, if_pos created]
              refine ⟨⟨trivial, ?_⟩, iff_of_true positive rfl⟩
              show [(fd : Int)] = client.held
              rw [Client.held_of_open positive, own]
            · rw [if_neg created, if_neg created, slpClientCloseCalls,
                if_pos positive, own]
              refine ⟨⟨⟨List.mem_cons_self, trivial⟩, ?_⟩, ?_⟩
              · show ([(fd : Int)].erase (fd : Int)) =
                  (slpClientClose client).held
                rw [List.erase_cons_head, client.held_of_closed.1]
              · refine iff_of_false ?_ running
                exact Int.not_le.mpr client.held_of_closed.2

theorem stop_sockets (holds : runtime.HoldsSocket) :
    (Lawful runtime.held runtime.stopCalls ∧
      heldAfter runtime.held runtime.stopCalls = runtime.stop.1.held) ∧
      runtime.stop.1.HoldsSocket := by
  unfold stopCalls stop
  by_cases running : runtime.state = .running
  · rw [if_pos running, if_pos running]
    rcases slpClientClose_lawful runtime.client with ⟨lawful, held⟩
    refine ⟨⟨lawful, held.trans ?_⟩, ?_⟩
    · exact runtime.client.held_of_closed.1.symm
    · refine iff_of_false ?_ nofun
      exact Int.not_le.mpr runtime.client.held_of_closed.2
  · rw [if_neg running, if_neg running]
    exact ⟨⟨trivial, rfl⟩, holds⟩

theorem keepalive_sockets (pass : Pass)
    (running : runtime.state = .running) (holds : runtime.HoldsSocket)
    (fresh : Fresh runtime.held (runtime.keepaliveCalls pass)) :
    (Lawful runtime.held (runtime.keepaliveCalls pass) ∧
      heldAfter runtime.held (runtime.keepaliveCalls pass) =
        (runtime.keepalive pass).1.held) ∧
      (runtime.keepalive pass).1.client.fd ≥ 0 := by
  have opened : runtime.client.fd ≥ 0 := holds.mpr running
  unfold keepaliveCalls keepalive at *
  by_cases due : pass.keepaliveDue = true
  · rw [if_pos due] at fresh
    rw [if_pos due, if_pos due]
    by_cases sends : pass.keepaliveSends = true
    · rw [if_pos sends, if_pos sends]
      exact ⟨⟨trivial, rfl⟩, opened⟩
    · rw [if_neg sends] at fresh
      rw [if_neg sends, if_neg sends]
      by_cases third : runtime.keepaliveFails + 1 ≥ 3
      · rw [if_pos third] at fresh
        rw [if_pos third, if_pos third]
        exact slpClientReopen_lawful opened fresh
      · rw [if_neg third, if_neg third]
        exact ⟨⟨trivial, rfl⟩, opened⟩
  · rw [if_neg due, if_neg due]
    exact ⟨⟨trivial, rfl⟩, opened⟩

/-- Every request and every pass. -/
theorem next_sockets (input : RuntimeInput) (holds : runtime.HoldsSocket)
    (fresh : Fresh runtime.held (runtime.socketCalls input)) :
    (Lawful runtime.held (runtime.socketCalls input) ∧
      heldAfter runtime.held (runtime.socketCalls input) =
        ((machine sha1).next runtime input).held) ∧
      ((machine sha1).next runtime input).HoldsSocket := by
  cases input with
  | reloadServers loaded =>
      cases loaded with
      | none => exact ⟨⟨trivial, rfl⟩, holds⟩
      | some servers => exact ⟨⟨trivial, rfl⟩, holds⟩
  | selectServer index =>
      show (_ ∧ _ = (runtime.selectServer index).1.held) ∧
        (runtime.selectServer index).1.HoldsSocket
      unfold selectServer
      split
      · exact ⟨⟨trivial, rfl⟩, holds⟩
      · exact ⟨⟨trivial, rfl⟩, holds⟩
  | start env => exact start_sockets env holds
  | stop => exact stop_sockets holds
  | pass pass =>
      unfold socketCalls Machine.next machine at *
      dsimp only at *
      by_cases running : runtime.state = .running
      · rw [if_pos running] at fresh
        rw [if_pos running, if_pos running]
        rcases keepalive_sockets pass running holds fresh with
          ⟨⟨lawful, held⟩, opened⟩
        have same :
            (runtime.runLoop sha1 pass).1.client =
              (runtime.keepalive pass).1.client :=
          (receive_login _ pass).1
        have goesOn :
            (runtime.runLoop sha1 pass).1.state = .running :=
          (receive_login _ pass).2.trans
            ((keepalive_login runtime pass).2.trans running)
        refine ⟨⟨lawful, held.trans ?_⟩, ?_⟩
        · unfold Runtime.held
          rw [same]
        · unfold HoldsSocket
          rw [same]
          exact iff_of_true opened goesOn
      · rw [if_neg running, if_neg running]
        exact ⟨⟨trivial, rfl⟩, holds⟩

/-- The socket calls of a run. -/
def runCalls (sha1 : List UInt8 → Digest) (inputs : List RuntimeInput) :
    List (Call Int) :=
  (machine sha1).fed socketCalls constructed inputs

/--
In every run in which the system never gives out a socket that the runtime
still holds, the runtime closes only sockets that it holds, and after the run
it holds exactly one while it runs, its client's, and none while it does not.
-/
theorem sockets_balanced (sha1 : List UInt8 → Digest)
    (inputs : List RuntimeInput)
    (fresh : Fresh [] (runCalls sha1 inputs)) :
    Lawful [] (runCalls sha1 inputs) ∧
      heldAfter [] (runCalls sha1 inputs) =
        if ((machine sha1).run constructed inputs).state = .running then
          [((machine sha1).run constructed inputs).client.fd]
        else [] := by
  have initially : constructed.HoldsSocket :=
    iff_of_false (by decide) nofun
  have each (runtime : Runtime) (input : RuntimeInput)
      (holds : runtime.HoldsSocket)
      (fresh : Fresh runtime.held (runtime.socketCalls input)) :
      (Lawful runtime.held (runtime.socketCalls input) ∧
        heldAfter runtime.held (runtime.socketCalls input) =
          ((machine sha1).next runtime input).held) ∧
        ((machine sha1).next runtime input).HoldsSocket :=
    next_sockets input holds fresh
  have nothing : constructed.held = [] := rfl
  rw [← nothing] at fresh
  have balanced := Handles.run_lawful each initially fresh
  refine ⟨balanced.1.1, balanced.1.2.trans ?_⟩
  unfold Runtime.held
  by_cases running :
      ((machine sha1).run constructed inputs).state = .running
  · rw [if_pos running]
    exact Client.held_of_open (balanced.2.mpr running)
  · rw [if_neg running]
    exact Client.held_of_shut (mt balanced.2.mp running)

/-- A relay that stops answering: three failures, and a new socket. -/
def silentRelay : List RuntimeInput :=
  guardedStart ++
    List.replicate 3 (.pass ⟨true, false, ⟨some 4, true⟩, none, true⟩) ++
      [.stop]

theorem silentRelay_balanced :
    Lawful []
        ([.opens 3, .opens 4, .closes 3, .closes 4] : List (Call Int)) ∧
      heldAfter [] (runCalls (fun _ _ => 0) silentRelay) = [] :=
  sockets_balanced (fun _ _ => 0) silentRelay
    (show
      Fresh []
        ([.opens 3, .opens 4, .closes 3, .closes 4] : List (Call Int)) from
      ⟨by decide, by decide, trivial⟩)

end Runtime

end SlpClient.Slp
