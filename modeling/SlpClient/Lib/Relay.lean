import SlpClient.Lib.Machine
import Mathlib.Logic.Function.Basic

/-!
# Parties over a relay

Copies of one machine talk over a relay that loses, delays, reorders,
duplicates and floods packets, but invents none.  A packet that was once sent
stays in the air, and any party may receive it, any number of times, at any
later moment; a packet that is never received is lost.  A ghost records what
the parties did, for statements about the past.  The invariant rule asks of
one step what it guarantees for its own party and for its packets, and what
it leaves of the facts about the others.
-/

namespace SlpClient.Lib

universe u v w

/-- How the parties run, what they exchange and what is recorded. -/
structure Relay (Index : Type u) (State Input Output : Type v)
    (Packet Ghost : Type w) where
  machine : Machine State Input Output
  consumes : Input → Option Packet
  emits : Output → List Packet
  record : Index → State → Input → Ghost → Ghost

namespace Relay

/-- All parties, the packets in the air and the record. -/
structure Network (Index : Type u) (State : Type v)
    (Packet Ghost : Type w) where
  nodes : Index → State
  air : List Packet
  ghost : Ghost

variable {Index : Type u} {State Input Output : Type v}
  {Packet Ghost : Type w}

/-- The relay has what this input consumes. -/
def Carries (relay : Relay Index State Input Output Packet Ghost)
    (network : Network Index State Packet Ghost) (input : Input) : Prop :=
  ∀ packet ∈ relay.consumes input, packet ∈ network.air

instance [DecidableEq Packet]
    (relay : Relay Index State Input Output Packet Ghost)
    (network : Network Index State Packet Ghost) (input : Input) :
    Decidable (relay.Carries network input) :=
  inferInstanceAs
    (Decidable (∀ packet ∈ relay.consumes input, packet ∈ network.air))

variable [DecidableEq Index]

/-- One party takes an input. -/
def take (relay : Relay Index State Input Output Packet Ghost)
    (network : Network Index State Packet Ghost) (who : Index)
    (input : Input) : Network Index State Packet Ghost where
  nodes :=
    Function.update network.nodes who
      (relay.machine.next (network.nodes who) input)
  air :=
    network.air ++
      relay.emits (relay.machine.output (network.nodes who) input)
  ghost :=
    relay.record who (network.nodes who) input network.ghost

variable [DecidableEq Packet]

/-- The whole network; a packet that is not in the air cannot arrive. -/
def world (relay : Relay Index State Input Output Packet Ghost) :
    Machine (Network Index State Packet Ghost) (Index × Input)
      (List Packet) where
  step network input :=
    if relay.Carries network input.2 then
      (relay.take network input.1 input.2,
        relay.emits
          (relay.machine.output (network.nodes input.1) input.2))
    else (network, [])

variable {relay : Relay Index State Input Output Packet Ghost}
  {network : Network Index State Packet Ghost}

theorem next_of_carries {who : Index} {input : Input}
    (carries : relay.Carries network input) :
    relay.world.next network (who, input) =
      relay.take network who input := by
  unfold Machine.next world
  dsimp only
  rw [if_pos carries]

theorem next_of_not_carries {who : Index} {input : Input}
    (missing : ¬ relay.Carries network input) :
    relay.world.next network (who, input) = network := by
  unfold Machine.next world
  dsimp only
  rw [if_neg missing]

/-- Facts about every party and about every packet in the air. -/
structure Holds (node : Ghost → Index → State → Prop)
    (packet : Ghost → Packet → Prop)
    (network : Network Index State Packet Ghost) : Prop where
  nodes : ∀ index, node network.ghost index (network.nodes index)
  air : ∀ sent ∈ network.air, packet network.ghost sent

/-- What an input guarantees for its own party and leaves of the others. -/
structure Guarantees (node : Ghost → Index → State → Prop)
    (packet : Ghost → Packet → Prop)
    (relay : Relay Index State Input Output Packet Ghost)
    (network : Network Index State Packet Ghost) (who : Index)
    (input : Input) : Prop where
  own :
    node (relay.record who (network.nodes who) input network.ghost) who
      (relay.machine.next (network.nodes who) input)
  others :
    ∀ other, other ≠ who →
      node (relay.record who (network.nodes who) input network.ghost)
        other (network.nodes other)
  sent :
    ∀ fresh ∈
        relay.emits (relay.machine.output (network.nodes who) input),
      packet (relay.record who (network.nodes who) input network.ghost)
        fresh
  kept :
    ∀ old ∈ network.air,
      packet (relay.record who (network.nodes who) input network.ghost) old

/-- A step with guarantees keeps the facts. -/
theorem Holds.next {node : Ghost → Index → State → Prop}
    {packet : Ghost → Packet → Prop}
    (holds : Holds node packet network) (input : Index × Input)
    (guarantees :
      relay.Carries network input.2 →
        Guarantees node packet relay network input.1 input.2) :
    Holds node packet (relay.world.next network input) := by
  rcases input with ⟨who, input⟩
  by_cases carries : relay.Carries network input
  · have given := guarantees carries
    rw [next_of_carries carries]
    constructor
    · intro index
      by_cases same : index = who
      · subst same
        unfold take
        dsimp only
        rw [Function.update_self]
        exact given.own
      · unfold take
        dsimp only
        rw [Function.update_of_ne same]
        exact given.others index same
    · intro sent member
      rcases List.mem_append.mp member with old | fresh
      · exact given.kept sent old
      · exact given.sent sent fresh
  · rw [next_of_not_carries carries]
    exact holds

end Relay

end SlpClient.Lib
