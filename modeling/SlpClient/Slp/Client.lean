import Mathlib.Algebra.GroupWithZero.Nat
import Mathlib.Data.List.OfFn
import SlpClient.Tunnel.Packets

/-!
# The transport client

One UDP socket to the relay, the address it was opened for, and the login of
the relay.  What the system answers is an argument: whether a name resolves,
a socket opens and binds, and whether a datagram goes out.  The hash is an
arbitrary function.
-/

namespace SlpClient.Slp

open SlpClient.Tunnel (Relayed slpClientSendRaw slpTypeAuthMe slpTypePing)

/-! ## C strings -/

/-- The text in a `char` array of the given size, without its terminator. -/
structure CString (size : Nat) where
  bytes : List UInt8
  terminated : 0 ∉ bytes
  fits : bytes.length < size
deriving DecidableEq

namespace CString

/-- The empty text. -/
def empty (size : Nat) [NeZero size] : CString size :=
  ⟨[], List.not_mem_nil, Nat.pos_of_neZero size⟩

/-- A copy of at most as many bytes as the array has room for. -/
def copied {source : Nat} (size : Nat) [NeZero size]
    (text : CString source) : CString size where
  bytes := text.bytes.take (size - 1)
  terminated member := text.terminated (List.mem_of_mem_take member)
  fits := by
    have room := Nat.pos_of_neZero size
    rw [List.length_take]
    omega

end CString

/-- A digest of 20 bytes. -/
abbrev Digest : Type := Fin 20 → UInt8

/-! ## The client -/

/-- `SLP_TYPE_KEEPALIVE`. -/
def slpTypeKeepalive : UInt8 := 0x00

/-- `SlpClient`. -/
structure Client where
  fd : Int
  serverIp : UInt32
  serverPort : UInt16
  host : CString 128
  hasCredentials : Bool
  username : CString 64
  passwordSha1 : Digest

namespace Client

/-- All bytes zero. -/
def zeroed : Client where
  fd := 0
  serverIp := 0
  serverPort := 0
  host := .empty 128
  hasCredentials := false
  username := .empty 64
  passwordSha1 _ := 0

end Client

/-- What the system answers when a socket is opened. -/
structure SocketEnv where
  socket : Option Nat
  bound : Bool

/-- A socket that could be opened and bound. -/
def SocketEnv.opened (env : SocketEnv) : Option Nat :=
  match env.socket with
  | none => none
  | some fd => if env.bound then some fd else none

/-- `slpClientOpen`: the whole record is cleared before it is filled. -/
def slpClientOpen (resolved : Option UInt32) (env : SocketEnv)
    (host : CString 128) (port : UInt16) : Option Client :=
  match resolved with
  | none => none
  | some ip =>
      match env.opened with
      | none => none
      | some fd =>
          some
            { Client.zeroed with
              fd := fd
              serverIp := ip
              serverPort := port
              host := host.copied 128 }

/-- `slpClientClose`. -/
def slpClientClose (client : Client) : Client :=
  if client.fd ≥ 0 then { client with fd := -1 } else client

/-- `slpClientReopen`: a new socket to the same server, if there was one. -/
def slpClientReopen (env : SocketEnv) (client : Client) : Client :=
  if client.serverIp = 0 ∨ client.serverPort = 0 then client
  else
    match env.opened with
    | none => client
    | some fd => { client with fd := fd }

/-- `slpClientSetCredentials`: the password is kept as its hash. -/
def slpClientSetCredentials (sha1 : List UInt8 → Digest)
    (client : Client) (username password : CString 64) : Client :=
  if username.bytes = [] then
    { client with
      hasCredentials := false
      username := .empty 64
      passwordSha1 := fun _ => 0 }
  else
    { client with
      username := username.copied 64
      passwordSha1 := sha1 password.bytes
      hasCredentials := true }

/-- The answer to a challenge: type, digest and user name. -/
def authMeAnswer (sha1 : List UInt8 → Digest) (passwordSha1 : Digest)
    (username challenge : List UInt8) : List UInt8 :=
  slpTypeAuthMe ::
    List.ofFn (sha1 (List.ofFn passwordSha1 ++ challenge)) ++ username

/-- `slpClientHandleAuthMe`. -/
def slpClientHandleAuthMe (sha1 : List UInt8 → Digest) (sends : Bool)
    (client : Client) (payload : List UInt8) : Relayed :=
  match payload with
  | [] => ⟨[], false⟩
  | authType :: challenge =>
      if authType ≠ 0 then ⟨[], false⟩
      else if client.hasCredentials = false then ⟨[], false⟩
      else
        slpClientSendRaw sends
          (authMeAnswer sha1 client.passwordSha1 client.username.bytes
            challenge)

/-- `slpFrameType`: the header byte without its high bit. -/
def slpFrameType (frame : List UInt8) : Option UInt8 :=
  frame.head?.map fun header => header &&& 0x7F

/-- `slpFramePing`. -/
def slpFramePing (timestamp : UInt32) : List UInt8 :=
  [slpTypePing, (timestamp >>> 24).toUInt8, (timestamp >>> 16).toUInt8,
    (timestamp >>> 8).toUInt8, timestamp.toUInt8]

/-- `slpClientRecv`: what does not fit the buffer is cut off. -/
def slpClientRecv (capacity : Nat) (datagram : List UInt8) :
    List UInt8 :=
  datagram.take capacity

/-! ## What the operations do to the login -/

/-- A client that was just opened has no login, whatever it had before. -/
theorem slpClientOpen_hasCredentials {resolved : Option UInt32}
    {env : SocketEnv} {host : CString 128} {port : UInt16}
    {client : Client}
    (opened : slpClientOpen resolved env host port = some client) :
    client.hasCredentials = false := by
  unfold slpClientOpen at opened
  split at opened
  · nomatch opened
  · split at opened
    · nomatch opened
    · rw [Option.some.injEq] at opened
      rw [← opened]
      rfl

theorem slpClientReopen_login (env : SocketEnv) (client : Client) :
    (slpClientReopen env client).hasCredentials =
      client.hasCredentials := by
  unfold slpClientReopen
  split
  · rfl
  · split <;> rfl

/-- Without a login no challenge is answered. -/
theorem slpClientHandleAuthMe_silent (sha1 : List UInt8 → Digest)
    (sends : Bool) {client : Client} (payload : List UInt8)
    (none : client.hasCredentials = false) :
    slpClientHandleAuthMe sha1 sends client payload = ⟨[], false⟩ := by
  unfold slpClientHandleAuthMe
  split
  · rfl
  · split
    · rfl
    · rfl

end SlpClient.Slp
