import SlpClient.Lib.Machine

/-!
# Handles that are opened and closed

A program asks for handles and gives them back.  Its calls are fresh when it
is never given a handle that it still holds, and lawful when it closes only
handles that it holds.  The run rule turns a step that closes lawfully and
knows what it holds into a whole run that does.
-/

namespace SlpClient.Lib.Handles

/-- A handle is given out or closed. -/
inductive Call (Handle : Type) where
  | opens (handle : Handle)
  | closes (handle : Handle)
deriving DecidableEq

variable {Handle : Type} [DecidableEq Handle]

/-- What is held after some calls. -/
def heldAfter (held : List Handle) : List (Call Handle) → List Handle
  | [] => held
  | .opens handle :: rest => heldAfter (handle :: held) rest
  | .closes handle :: rest => heldAfter (held.erase handle) rest

/-- No handle is given out that is still held. -/
def Fresh (held : List Handle) : List (Call Handle) → Prop
  | [] => True
  | .opens handle :: rest => handle ∉ held ∧ Fresh (handle :: held) rest
  | .closes handle :: rest => Fresh (held.erase handle) rest

/-- Only handles that are held are closed. -/
def Lawful (held : List Handle) : List (Call Handle) → Prop
  | [] => True
  | .opens handle :: rest => Lawful (handle :: held) rest
  | .closes handle :: rest =>
      handle ∈ held ∧ Lawful (held.erase handle) rest

section Append

variable (held : List Handle) (first rest : List (Call Handle))

theorem heldAfter_append :
    heldAfter held (first ++ rest) =
      heldAfter (heldAfter held first) rest := by
  induction first generalizing held with
  | nil => rfl
  | cons call first induction =>
      cases call with
      | opens handle => exact induction (handle :: held)
      | closes handle => exact induction (held.erase handle)

theorem fresh_append :
    Fresh held (first ++ rest) ↔
      Fresh held first ∧ Fresh (heldAfter held first) rest := by
  induction first generalizing held with
  | nil => exact (iff_of_eq (true_and _)).symm
  | cons call first induction =>
      cases call with
      | opens handle =>
          exact (and_congr_right fun _ => induction (handle :: held)).trans
            and_assoc.symm
      | closes handle => exact induction (held.erase handle)

theorem lawful_append :
    Lawful held (first ++ rest) ↔
      Lawful held first ∧ Lawful (heldAfter held first) rest := by
  induction first generalizing held with
  | nil => exact (iff_of_eq (true_and _)).symm
  | cons call first induction =>
      cases call with
      | opens handle => exact induction (handle :: held)
      | closes handle =>
          exact
            (and_congr_right fun _ => induction (held.erase handle)).trans
              and_assoc.symm

end Append

/--
When every step, from what a state says is held, closes lawfully and ends
with what the next state says is held, so does a run.
-/
theorem run_lawful {State Input Output : Type*}
    {machine : Machine State Input Output}
    {calls : State → Input → List (Call Handle)}
    {holds : State → List Handle} {invariant : State → Prop}
    (each :
      ∀ state input, invariant state →
        Fresh (holds state) (calls state input) →
          (Lawful (holds state) (calls state input) ∧
            heldAfter (holds state) (calls state input) =
              holds (machine.next state input)) ∧
            invariant (machine.next state input))
    {state : State} (initially : invariant state) {inputs : List Input}
    (fresh : Fresh (holds state) (machine.fed calls state inputs)) :
    (Lawful (holds state) (machine.fed calls state inputs) ∧
      heldAfter (holds state) (machine.fed calls state inputs) =
        holds (machine.run state inputs)) ∧
      invariant (machine.run state inputs) := by
  induction inputs generalizing state with
  | nil => exact ⟨⟨trivial, rfl⟩, initially⟩
  | cons input rest induction =>
      rw [Machine.fed] at fresh ⊢
      rcases (fresh_append ..).mp fresh with ⟨here, later⟩
      rcases each state input initially here with ⟨⟨lawful, held⟩, kept⟩
      rw [held] at later
      rcases induction kept later with ⟨⟨onward, after⟩, finished⟩
      rw [lawful_append, heldAfter_append, held]
      exact ⟨⟨⟨lawful, onward⟩, after⟩, finished⟩

end SlpClient.Lib.Handles
