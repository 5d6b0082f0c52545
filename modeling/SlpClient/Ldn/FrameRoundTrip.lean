import SlpClient.Ldn.Handlers
import SlpClient.Lib.Machine

/-!
# Control frames round-trip

`SendFrame` on one console and `OnControlFrame` on another are inverse: the
handler of the sent type sees the sent body and the stamped counter.  The
statement is about a sender that sends any number of frames, so that it
covers every value of the 16-bit counter and its wrap.
-/

namespace SlpClient.Ldn

open SlpClient.Lib

/-! ## Frames among the effects -/

/-- The frame that an effect hands to the tunnel. -/
def Effect.sent : Effect → Option Frame
  | .send frame => some frame
  | _ => none

/-- The frames handed to the tunnel, in order. -/
def sentFrames (effects : List Effect) : List Frame :=
  effects.filterMap Effect.sent

@[simp]
theorem sentFrames_append (first second : List Effect) :
    sentFrames (first ++ second) = sentFrames first ++ sentFrames second :=
  List.filterMap_append

@[simp]
theorem sentFrames_nil : sentFrames [] = [] :=
  rfl

@[simp]
theorem sentFrames_cons (effect : Effect) (rest : List Effect) :
    sentFrames (effect :: rest) =
      effect.sent.toList ++ sentFrames rest := by
  unfold sentFrames
  cases sent : effect.sent <;> simp [sent]

/-- Searching the node table sends nothing. -/
theorem sentFrames_searchNodes
    (env : Env) (info : NetworkInfo) (wanted : NodeInfo → Bool)
    (first count : Nat) :
    sentFrames (searchNodes env info wanted first count).2 = [] := by
  apply List.filterMap_eq_nil_iff.mpr
  intro effect member
  rcases access_of_mem_searchNodes member with ⟨entry, rfl⟩
  rfl

namespace LdnControl

/-- A membership query sends nothing. -/
theorem sentFrames_isKnownSessionPeer
    (control : LdnControl) (env : Env) (ip : UInt32) :
    sentFrames (control.isKnownSessionPeer env ip).2 = [] := by
  apply List.filterMap_eq_nil_iff.mpr
  intro effect member
  rcases access_of_mem_isKnownSessionPeer member with ⟨entry, rfl⟩
  rfl

/-- The tunnel answers a loopback datagram with a query, not with a frame. -/
theorem sentFrames_tunnelSend
    (control : LdnControl) (env : Env) (dst : UInt32)
    (datagram : List UInt8) :
    sentFrames (control.tunnelSend env dst datagram) = [] := by
  rcases control.tunnelSend_eq env dst datagram with none | query
  · rw [none]
    rfl
  · rw [query]
    simp [isKnownSessionPeerPublic, Effect.sent,
      sentFrames_isKnownSessionPeer]

/-- A send hands exactly one frame to the tunnel, stamped with its counter. -/
theorem sentFrames_sendFrame
    (control : LdnControl) (env : Env) (dst : UInt32)
    (type : LanPacketType) (body : List UInt8) :
    sentFrames (control.sendFrame env dst type body).effects =
      if env.running then [⟨dst, type, nextSeq control.txSeq, body⟩]
      else [] := by
  unfold sendFrame
  split
  · simp [Effect.sent, sentFrames_tunnelSend]
  · rfl

/-- A built frame reaches the handler of its type as it was sent. -/
theorem onControlFrame_frameBytes
    (receiver : LdnControl) (env : Env) (srcIp : UInt32)
    (type : LanPacketType) (seq : UInt16) (body : List UInt8)
    (fits : body.length ≤ NetworkInfo.codec.size) :
    receiver.onControlFrame env srcIp (frameBytes type seq body) =
      locked
        (Step.after (openAccesses (frameBytes type seq body))
          (receiver.handleFrame env srcIp type body seq)) := by
  rw [onControlFrame_eq, openedFrame_frameBytes type seq body fits]

end LdnControl

/-! ## A sender -/

/-- One call of `SendFrame`; no body is longer than `sizeof(NetworkInfo)`. -/
structure SendCall where
  env : Env
  dst : UInt32
  type : LanPacketType
  body : List UInt8
  fits : body.length ≤ NetworkInfo.codec.size

/-- A console that sends one frame after another. -/
def sendMachine : Machine LdnControl SendCall (List Effect) where
  step sender call :=
    let sent := sender.sendFrame call.env call.dst call.type call.body
    (sent.control, sent.effects)

/-- `frame` carries `call` to every receiver. -/
structure Delivers (call : SendCall) (frame : Frame) : Prop where
  dst : frame.dst = call.dst
  stamped : frame.seq ≠ 0
  dispatched :
    ∀ (receiver : LdnControl) (env : Env) (srcIp : UInt32),
      receiver.onControlFrame env srcIp frame.bytes =
        locked
          (Step.after (LdnControl.openAccesses frame.bytes)
            (receiver.handleFrame env srcIp call.type call.body frame.seq))

/--
However many frames a console sent before, each send of a running console
emits one datagram, and every other console dispatches that datagram to the
handler of its type with the same body and the stamped, non-zero counter.
-/
theorem sendFrame_onControlFrame_roundTrip
    (sender : LdnControl) (calls : List SendCall) :
    sendMachine.EachStep
      (fun state call =>
        ∃ frame : Frame,
          sentFrames (sendMachine.output state call) =
              (if call.env.running then [frame] else []) ∧
            Delivers call frame)
      sender calls := by
  induction calls generalizing sender with
  | nil => trivial
  | cons call rest induction =>
      refine ⟨?_, induction (sendMachine.next sender call)⟩
      refine
        ⟨⟨call.dst, call.type, nextSeq sender.txSeq, call.body⟩, ?_, ?_⟩
      · exact
          sender.sentFrames_sendFrame call.env call.dst call.type
            call.body
      · exact
          { dst := rfl
            stamped := nextSeq_ne_zero sender.txSeq
            dispatched := fun receiver env srcIp =>
              receiver.onControlFrame_frameBytes env srcIp call.type
                (nextSeq sender.txSeq) call.body call.fits }

end SlpClient.Ldn
