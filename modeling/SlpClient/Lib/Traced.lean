import Mathlib.Data.List.Basic

/-!
# Computations with a trace

A computation returns a value and the list of the events on the way to it, in
order.  `Meets` says that every event has a property and that the value meets
a postcondition; it has one rule for each way to build a computation.
-/

namespace SlpClient.Lib

universe u v

/-- A value, and what happened before it was there. -/
structure Traced (Event : Type u) (Value : Type v) where
  value : Value
  trace : List Event

namespace Traced

variable {Event : Type u}

instance : Monad (Traced Event) where
  pure value := ⟨value, []⟩
  bind first next :=
    ⟨(next first.value).value, first.trace ++ (next first.value).trace⟩

/-- A single event. -/
def log (event : Event) : Traced Event Unit :=
  ⟨(), [event]⟩

variable {Value Result : Type v}

@[simp]
theorem pure_value (value : Value) :
    (pure value : Traced Event Value).value = value :=
  rfl

@[simp]
theorem bind_value (first : Traced Event Value)
    (next : Value → Traced Event Result) :
    (first >>= next).value = (next first.value).value :=
  rfl

@[simp]
theorem map_value (function : Value → Result) (traced : Traced Event Value) :
    (function <$> traced).value = function traced.value :=
  rfl

/-- Every event has the property, and the value meets the postcondition. -/
def Meets (property : Event → Prop) (post : Value → Prop)
    (traced : Traced Event Value) : Prop :=
  (∀ event ∈ traced.trace, property event) ∧ post traced.value

variable {property : Event → Prop} {post : Value → Prop}

theorem Meets.pure {value : Value} (holds : post value) :
    (Pure.pure value : Traced Event Value).Meets property post :=
  ⟨fun _ member => absurd member List.not_mem_nil, holds⟩

theorem Meets.bind {first : Traced Event Value}
    {next : Value → Traced Event Result} {after : Result → Prop}
    (before : first.Meets property post)
    (rest : ∀ value, post value → (next value).Meets property after) :
    (first >>= next).Meets property after := by
  have last := rest first.value before.2
  refine ⟨fun event member => ?_, last.2⟩
  rcases List.mem_append.mp member with early | late
  · exact before.1 event early
  · exact last.1 event late

theorem Meets.log {event : Event} (holds : property event) :
    (Traced.log event).Meets property fun _ => True := by
  refine ⟨fun other member => ?_, trivial⟩
  rw [List.mem_singleton.mp member]
  exact holds

theorem Meets.ite {condition : Prop} [Decidable condition]
    {first second : Traced Event Value}
    (whenTrue : condition → first.Meets property post)
    (whenFalse : ¬ condition → second.Meets property post) :
    (if condition then first else second).Meets property post := by
  split
  · next holds => exact whenTrue holds
  · next fails => exact whenFalse fails

theorem Meets.mono {weaker : Value → Prop} {traced : Traced Event Value}
    (meets : traced.Meets property post)
    (gives : ∀ value, post value → weaker value) :
    traced.Meets property weaker :=
  ⟨meets.1, gives _ meets.2⟩

end Traced

end SlpClient.Lib
