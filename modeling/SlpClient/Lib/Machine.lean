import Mathlib.Data.List.Basic
import Mathlib.Data.List.Induction

/-!
# Runs of an input-driven machine

A machine consumes one input at a time and answers each with an output.  A
run is a finite list of inputs.  Two recursive predicates speak about every
point of a run: `EachState` about the states passed through, `EachStep` about
the pairs of a state and the input consumed there.  The invariant rules below
turn a fact about one step into a fact about every run.
-/

namespace SlpClient.Lib

universe u v w

/-- A deterministic machine with an output for every consumed input. -/
structure Machine (State : Type u) (Input : Type v) (Output : Type w) where
  step : State → Input → State × Output

namespace Machine

variable
    {State : Type u}
    {Input : Type v}
    {Output : Type w}
    (machine : Machine State Input Output)

/-- The state after one input. -/
def next (state : State) (input : Input) : State :=
  (machine.step state input).1

/-- The output of one input. -/
def output (state : State) (input : Input) : Output :=
  (machine.step state input).2

/-- The state after a list of inputs. -/
def run (state : State) : List Input → State
  | [] => state
  | input :: rest => run (machine.next state input) rest

/-- The outputs of a list of inputs, in order. -/
def outputs (state : State) : List Input → List Output
  | [] => []
  | input :: rest =>
      machine.output state input ::
        outputs (machine.next state input) rest

/-- `property` holds in every state of the run, the first one included. -/
def EachState (property : State → Prop) (state : State) : List Input → Prop
  | [] => property state
  | input :: rest =>
      property state ∧
        EachState property (machine.next state input) rest

/-- `property` holds of every input in the state that consumes it. -/
def EachStep (property : State → Input → Prop) (state : State) :
    List Input → Prop
  | [] => True
  | input :: rest =>
      property state input ∧
        EachStep property (machine.next state input) rest

/-- `property` holds of some input in the state that consumes it. -/
def SomeStep (property : State → Input → Prop) (state : State)
    (inputs : List Input) : Prop :=
  ∃ before input after,
    inputs = before ++ input :: after ∧
      property (machine.run state before) input

/-- The inputs that `accepts` accepts in the state that consumes them. -/
def selected (accepts : State → Input → Bool) (state : State) :
    List Input → List Input
  | [] => []
  | input :: rest =>
      if accepts state input then
        input :: selected accepts (machine.next state input) rest
      else selected accepts (machine.next state input) rest

/-- The last note that a step of the run makes, after what is known. -/
def latest {Note : Type*} (note : State → Input → Option Note)
    (known : Option Note) (state : State) : List Input → Option Note
  | [] => known
  | input :: rest =>
      latest note ((note state input).or known) (machine.next state input)
        rest

/-- What the steps of the run feed to a part of the machine. -/
def fed {Part : Type*} (feed : State → Input → List Part) (state : State) :
    List Input → List Part
  | [] => []
  | input :: rest =>
      feed state input ++ fed feed (machine.next state input) rest

/-- States that some run from `initial` ends in. -/
def Reachable (initial state : State) : Prop :=
  ∃ inputs, machine.run initial inputs = state

@[simp]
theorem run_nil (state : State) : machine.run state [] = state :=
  rfl

@[simp]
theorem run_cons (state : State) (input : Input) (rest : List Input) :
    machine.run state (input :: rest) =
      machine.run (machine.next state input) rest :=
  rfl

theorem run_append (state : State) (first second : List Input) :
    machine.run state (first ++ second) =
      machine.run (machine.run state first) second := by
  induction first generalizing state with
  | nil => rfl
  | cons input rest induction =>
      exact induction (machine.next state input)

@[simp]
theorem outputs_nil (state : State) : machine.outputs state [] = [] :=
  rfl

@[simp]
theorem outputs_cons (state : State) (input : Input) (rest : List Input) :
    machine.outputs state (input :: rest) =
      machine.output state input ::
        machine.outputs (machine.next state input) rest :=
  rfl

theorem outputs_append (state : State) (first second : List Input) :
    machine.outputs state (first ++ second) =
      machine.outputs state first ++
        machine.outputs (machine.run state first) second := by
  induction first generalizing state with
  | nil => rfl
  | cons input rest induction =>
      simp [induction]

theorem selected_append (accepts : State → Input → Bool) (state : State)
    (first second : List Input) :
    machine.selected accepts state (first ++ second) =
      machine.selected accepts state first ++
        machine.selected accepts (machine.run state first) second := by
  induction first generalizing state with
  | nil => rfl
  | cons input rest induction =>
      simp only [List.cons_append, selected, run_cons]
      split
      · rw [induction, List.cons_append]
      · exact induction (machine.next state input)

theorem latest_append {Note : Type*} (note : State → Input → Option Note)
    (known : Option Note) (state : State) (first second : List Input) :
    machine.latest note known state (first ++ second) =
      machine.latest note (machine.latest note known state first)
        (machine.run state first) second := by
  induction first generalizing known state with
  | nil => rfl
  | cons input rest induction => exact induction _ _

theorem latest_concat {Note : Type*} (note : State → Input → Option Note)
    (known : Option Note) (state : State) (inputs : List Input)
    (input : Input) :
    machine.latest note known state (inputs ++ [input]) =
      (note (machine.run state inputs) input).or
        (machine.latest note known state inputs) := by
  rw [latest_append, latest, latest]

theorem eachStep_append (property : State → Input → Prop) (state : State)
    (first second : List Input) :
    machine.EachStep property state (first ++ second) ↔
      machine.EachStep property state first ∧
        machine.EachStep property (machine.run state first) second := by
  induction first generalizing state with
  | nil => exact ⟨fun always => ⟨trivial, always⟩, And.right⟩
  | cons input rest induction =>
      exact (and_congr_right fun _ => induction _).trans and_assoc.symm

variable {machine}

theorem EachState.first
    {property : State → Prop} {state : State} {inputs : List Input}
    (always : machine.EachState property state inputs) :
    property state := by
  cases inputs with
  | nil => exact always
  | cons input rest => exact always.1

theorem EachState.last
    {property : State → Prop} {state : State} {inputs : List Input}
    (always : machine.EachState property state inputs) :
    property (machine.run state inputs) := by
  induction inputs generalizing state with
  | nil => exact always
  | cons input rest induction => exact induction always.2

/-- What holds in every state of a run holds in those of its beginning. -/
theorem EachState.of_append
    {property : State → Prop} {state : State} {first second : List Input}
    (always : machine.EachState property state (first ++ second)) :
    machine.EachState property state first := by
  induction first generalizing state with
  | nil => exact always.first
  | cons input rest induction =>
      exact ⟨always.1, induction always.2⟩

theorem EachState.append
    {property : State → Prop} {state : State} {first second : List Input}
    (before : machine.EachState property state first)
    (after :
      machine.EachState property (machine.run state first) second) :
    machine.EachState property state (first ++ second) := by
  induction first generalizing state with
  | nil => exact after
  | cons input rest induction =>
      exact ⟨before.1, induction before.2 after⟩

/-- A decidable property can be checked along a run. -/
instance decidableEachState {property : State → Prop}
    [DecidablePred property] (state : State) :
    (inputs : List Input) →
      Decidable (machine.EachState property state inputs)
  | [] => inferInstanceAs (Decidable (property state))
  | input :: rest =>
      letI :
          Decidable
            (machine.EachState property (machine.next state input) rest) :=
        decidableEachState (machine.next state input) rest
      inferInstanceAs
        (Decidable
          (property state ∧
            machine.EachState property (machine.next state input) rest))

/-- What follows from a state property holds in every state as well. -/
theorem EachState.mono
    {first second : State → Prop}
    (gives : ∀ state, first state → second state)
    {state : State} {inputs : List Input}
    (always : machine.EachState first state inputs) :
    machine.EachState second state inputs := by
  induction inputs generalizing state with
  | nil => exact gives state always
  | cons input rest induction =>
      exact ⟨gives state always.1, induction always.2⟩

/-- What holds in every state of a run holds after each of its steps. -/
theorem EachState.eachStep
    {property : State → Prop} {state : State} {inputs : List Input}
    (always : machine.EachState property state inputs) :
    machine.EachStep
      (fun state input => property (machine.next state input)) state
      inputs := by
  induction inputs generalizing state with
  | nil => trivial
  | cons input rest induction =>
      exact ⟨always.2.first, induction always.2⟩

/-- What follows from a step property holds at every step as well. -/
theorem EachStep.mono
    {first second : State → Input → Prop}
    (gives : ∀ state input, first state input → second state input)
    {state : State} {inputs : List Input}
    (always : machine.EachStep first state inputs) :
    machine.EachStep second state inputs := by
  induction inputs generalizing state with
  | nil => trivial
  | cons input rest induction =>
      exact ⟨gives state input always.1, induction always.2⟩

theorem SomeStep.cons
    {property : State → Input → Prop} {state : State} {input : Input}
    {rest : List Input}
    (some : machine.SomeStep property (machine.next state input) rest) :
    machine.SomeStep property state (input :: rest) := by
  rcases some with ⟨before, met, after, rfl, holds⟩
  exact ⟨input :: before, met, after, rfl, holds⟩

/--
An invariant that every step keeps unless `property` holds of it either lasts
to the end of the run, or `property` held of some step.
-/
theorem invariant_or_someStep
    {invariant : State → Prop}
    {condition property : State → Input → Prop}
    (keeps :
      ∀ state input,
        invariant state → condition state input →
          invariant (machine.next state input) ∨ property state input)
    {state : State} {inputs : List Input}
    (initially : invariant state)
    (conditions : machine.EachStep condition state inputs) :
    invariant (machine.run state inputs) ∨
      machine.SomeStep property state inputs := by
  induction inputs generalizing state with
  | nil => exact .inl initially
  | cons input rest induction =>
      rcases keeps state input initially conditions.1 with kept | met
      · rcases induction kept conditions.2 with last | some
        · exact .inl last
        · exact .inr some.cons
      · exact .inr ⟨[], input, rest, rfl, met⟩

/--
The invariant rule: a property that every step keeps, as long as the step
meets `condition`, holds all along a run whose steps meet it.
-/
theorem eachState_of_eachStep
    {invariant : State → Prop} {condition : State → Input → Prop}
    (keeps :
      ∀ state input,
        invariant state → condition state input →
          invariant (machine.next state input))
    {state : State} {inputs : List Input}
    (initially : invariant state)
    (conditions : machine.EachStep condition state inputs) :
    machine.EachState invariant state inputs := by
  induction inputs generalizing state with
  | nil => exact initially
  | cons input rest induction =>
      exact
        ⟨initially,
          induction (keeps state input initially conditions.1)
            conditions.2⟩

/--
The exact form of the invariant rule: when `condition` says precisely which
steps keep the invariant, the runs that keep it are the runs whose steps all
meet `condition`.
-/
theorem eachState_iff_eachStep
    {invariant : State → Prop} {condition : State → Input → Prop}
    (exact :
      ∀ state input,
        invariant state →
          (invariant (machine.next state input) ↔ condition state input))
    {state : State} {inputs : List Input}
    (initially : invariant state) :
    machine.EachState invariant state inputs ↔
      machine.EachStep condition state inputs := by
  constructor
  · intro always
    induction inputs generalizing state with
    | nil => trivial
    | cons input rest induction =>
        have kept := always.2.first
        exact
          ⟨(exact state input initially).1 kept,
            induction kept always.2⟩
  · exact
      eachState_of_eachStep
        (fun state input holds met => (exact state input holds).2 met)
        initially

/--
The exact rule for a property that an invariant completes: on admissible
inputs the steps that meet `condition` keep the invariant, and a step after
which the property holds has met it.
-/
theorem eachState_iff_eachStep_of_invariant
    {invariant property : State → Prop} {admissible : Input → Prop}
    {condition : State → Input → Prop}
    (gives : ∀ state, invariant state → property state)
    (keeps :
      ∀ state input,
        invariant state → admissible input → condition state input →
          invariant (machine.next state input))
    (needs :
      ∀ state input,
        invariant state → admissible input →
          property (machine.next state input) → condition state input)
    {state : State} {inputs : List Input}
    (initially : invariant state)
    (admitted : ∀ input ∈ inputs, admissible input) :
    machine.EachState property state inputs ↔
      machine.EachStep condition state inputs := by
  induction inputs generalizing state with
  | nil => exact iff_of_true (gives state initially) trivial
  | cons input rest induction =>
      have here := admitted input List.mem_cons_self
      have later : ∀ other ∈ rest, admissible other :=
        fun other member => admitted other (List.mem_cons_of_mem _ member)
      constructor
      · intro always
        have met := needs state input initially here always.2.first
        have kept := keeps state input initially here met
        exact ⟨met, (induction kept later).1 always.2⟩
      · intro conditions
        have kept := keeps state input initially here conditions.1
        exact
          ⟨gives state initially, (induction kept later).2 conditions.2⟩

/--
A step property that follows from an invariant and from `condition` holds at
every step of a run whose steps meet `condition`.
-/
theorem eachStep_of_invariant
    {invariant : State → Prop}
    {condition property : State → Input → Prop}
    (keeps :
      ∀ state input,
        invariant state → condition state input →
          invariant (machine.next state input))
    (gives :
      ∀ state input,
        invariant state → condition state input → property state input)
    {state : State} {inputs : List Input}
    (initially : invariant state)
    (conditions : machine.EachStep condition state inputs) :
    machine.EachStep property state inputs := by
  induction inputs generalizing state with
  | nil => trivial
  | cons input rest induction =>
      exact
        ⟨gives state input initially conditions.1,
          induction (keeps state input initially conditions.1)
            conditions.2⟩

/--
The converse rule: where the invariant and `property` of an admissible input
give `condition`, the steps of a run of admissible inputs meet `condition`
when they all have `property`.
-/
theorem eachStep_of_property
    {invariant : State → Prop} {admissible : Input → Prop}
    {condition property : State → Input → Prop}
    (keeps :
      ∀ state input,
        invariant state → condition state input →
          invariant (machine.next state input))
    (gives :
      ∀ state input,
        invariant state → admissible input → property state input →
          condition state input)
    {state : State} {inputs : List Input}
    (initially : invariant state)
    (admitted : ∀ input ∈ inputs, admissible input)
    (properties : machine.EachStep property state inputs) :
    machine.EachStep condition state inputs := by
  induction inputs generalizing state with
  | nil => trivial
  | cons input rest induction =>
      have met :=
        gives state input initially (admitted input List.mem_cons_self)
          properties.1
      have tailAdmitted : ∀ other ∈ rest, admissible other :=
        fun other member => admitted other (List.mem_cons_of_mem _ member)
      exact
        ⟨met,
          induction (keeps state input initially met) tailAdmitted
            properties.2⟩

/--
The exact rule for a property of steps: where the invariant makes `property`
and `condition` of an admissible input the same, the steps of a run of
admissible inputs all have the one exactly when they all have the other.
-/
theorem eachStep_iff_eachStep
    {invariant : State → Prop} {admissible : Input → Prop}
    {condition property : State → Input → Prop}
    (keeps :
      ∀ state input,
        invariant state → admissible input → condition state input →
          invariant (machine.next state input))
    (exact :
      ∀ state input,
        invariant state → admissible input →
          (property state input ↔ condition state input))
    {state : State} {inputs : List Input}
    (initially : invariant state)
    (admitted : ∀ input ∈ inputs, admissible input) :
    machine.EachStep property state inputs ↔
      machine.EachStep condition state inputs := by
  induction inputs generalizing state with
  | nil => exact Iff.rfl
  | cons input rest induction =>
      have here := admitted input List.mem_cons_self
      have later : ∀ other ∈ rest, admissible other :=
        fun other member => admitted other (List.mem_cons_of_mem _ member)
      show (property state input ∧ _) ↔ (condition state input ∧ _)
      rw [exact state input initially here]
      apply and_congr_right
      intro met
      exact induction (keeps state input initially here met) later

/--
A run simulates the run without some of its inputs, when the kept inputs take
related states to related states and are accepted alike, and the others leave
the related state where it is and are not accepted.
-/
theorem selected_filter_of_simulation
    {related : State → State → Prop}
    {condition : State → Input → Prop}
    {accepts : State → Input → Bool}
    {keep : Input → Bool}
    (keeps :
      ∀ state other input,
        related state other → condition state input → keep input = true →
          related (machine.next state input) (machine.next other input) ∧
            accepts state input = accepts other input)
    (drops :
      ∀ state other input,
        related state other → condition state input → keep input = false →
          related (machine.next state input) other ∧
            accepts state input = false)
    {state other : State} {inputs : List Input}
    (initially : related state other)
    (conditions : machine.EachStep condition state inputs) :
    machine.selected accepts state inputs =
      machine.selected accepts other (inputs.filter keep) := by
  induction inputs generalizing state other with
  | nil => rfl
  | cons input rest induction =>
      cases kept : keep input with
      | true =>
          have simulated :=
            keeps state other input initially conditions.1 kept
          have tail := induction simulated.1 conditions.2
          simp only [List.filter_cons, kept, if_true, selected,
            simulated.2, tail]
      | false =>
          have simulated :=
            drops state other input initially conditions.1 kept
          have tail := induction simulated.1 conditions.2
          simp only [List.filter_cons, kept, selected, simulated.2, tail,
            Bool.false_eq_true, if_false]

/-- An invariant that admissible inputs keep lasts through a run of them. -/
theorem run_invariant
    {invariant : State → Prop} {admissible : Input → Prop}
    (keeps :
      ∀ state input,
        invariant state → admissible input →
          invariant (machine.next state input))
    {state : State} {inputs : List Input}
    (initially : invariant state)
    (admitted : ∀ input ∈ inputs, admissible input) :
    invariant (machine.run state inputs) := by
  induction inputs generalizing state with
  | nil => exact initially
  | cons input rest induction =>
      apply induction
      · exact keeps state input initially (admitted input List.mem_cons_self)
      · intro other member
        exact admitted other (List.mem_cons_of_mem _ member)

/--
An invariant that relates the state to the last note lasts through a run
whose steps meet `condition`.
-/
theorem latest_invariant
    {Note : Type*} {note : State → Input → Option Note}
    {invariant : Option Note → State → Prop}
    {condition : State → Input → Prop}
    (keeps :
      ∀ known state input,
        invariant known state → condition state input →
          invariant ((note state input).or known)
            (machine.next state input))
    {known : Option Note} {state : State} {inputs : List Input}
    (initially : invariant known state)
    (conditions : machine.EachStep condition state inputs) :
    invariant (machine.latest note known state inputs)
      (machine.run state inputs) := by
  induction inputs generalizing known state with
  | nil => exact initially
  | cons input rest induction =>
      exact
        induction (keeps known state input initially conditions.1)
          conditions.2

/--
An invariant that refers to the notes on the inputs so far lasts through a
run whose steps meet `condition`.
-/
theorem noted_invariant
    {Note : Type*} {note : Input → Option Note}
    {invariant : List Note → State → Prop}
    {condition : State → Input → Prop}
    (keeps :
      ∀ noted state input,
        invariant noted state → condition state input →
          invariant (noted ++ (note input).toList)
            (machine.next state input))
    {noted : List Note} {state : State} {inputs : List Input}
    (initially : invariant noted state)
    (conditions : machine.EachStep condition state inputs) :
    invariant (noted ++ inputs.filterMap note)
      (machine.run state inputs) := by
  induction inputs generalizing noted state with
  | nil =>
      rw [List.filterMap_nil, List.append_nil]
      exact initially
  | cons input rest induction =>
      have later :=
        induction (keeps noted state input initially conditions.1)
          conditions.2
      rw [List.append_assoc] at later
      rw [List.filterMap_cons]
      cases met : note input with
      | none =>
          rw [met] at later
          exact later
      | some fact =>
          rw [met] at later
          exact later

/-- A relation that every input keeps between two machines lasts. -/
theorem run_simulation
    {Twin OtherOutput : Type*} {twin : Machine Twin Input OtherOutput}
    {related : State → Twin → Prop}
    (keeps :
      ∀ state other input, related state other →
        related (machine.next state input) (twin.next other input))
    {state : State} {other : Twin} (initially : related state other)
    (inputs : List Input) :
    related (machine.run state inputs) (twin.run other inputs) := by
  induction inputs generalizing state other with
  | nil => exact initially
  | cons input rest induction =>
      exact induction (keeps state other input initially)

/--
Refinement: when admissible inputs take related states of two machines to
related states and are answered alike, runs of admissible inputs end in
related states and have the same outputs.
-/
theorem refinement
    {Twin : Type*} {twin : Machine Twin Input Output}
    {related : State → Twin → Prop} {admissible : Input → Prop}
    (each :
      ∀ state other input, related state other → admissible input →
        related (machine.next state input) (twin.next other input) ∧
          machine.output state input = twin.output other input)
    {state : State} {other : Twin} {inputs : List Input}
    (initially : related state other)
    (admitted : ∀ input ∈ inputs, admissible input) :
    related (machine.run state inputs) (twin.run other inputs) ∧
      machine.outputs state inputs = twin.outputs other inputs := by
  induction inputs generalizing state other with
  | nil => exact ⟨initially, rfl⟩
  | cons input rest induction =>
      have first :=
        each state other input initially
          (admitted input List.mem_cons_self)
      have later :=
        induction first.1
          fun input member => admitted input (List.mem_cons_of_mem _ member)
      exact ⟨later.1, List.cons_eq_cons.mpr ⟨first.2, later.2⟩⟩

/-- A part of the machine has a run of its own, on what it is fed. -/
theorem part_run
    {Part PartInput PartOutput : Type*}
    {component : Machine Part PartInput PartOutput} {part : State → Part}
    {feed : State → Input → List PartInput}
    (each :
      ∀ state input,
        part (machine.next state input) =
          component.run (part state) (feed state input))
    (state : State) (inputs : List Input) :
    part (machine.run state inputs) =
      component.run (part state) (machine.fed feed state inputs) := by
  induction inputs generalizing state with
  | nil => rfl
  | cons input rest induction =>
      rw [run_cons, induction, each, fed, run_append]

/-- A part has a run of its own as long as an invariant lasts. -/
theorem part_run_of_invariant
    {Part PartInput PartOutput : Type*}
    {component : Machine Part PartInput PartOutput} (part : State → Part)
    {feed : State → Input → List PartInput} {invariant : State → Prop}
    (keeps :
      ∀ state input, invariant state → invariant (machine.next state input))
    (each :
      ∀ state input, invariant state →
        part (machine.next state input) =
          component.run (part state) (feed state input))
    {state : State} (initially : invariant state) (inputs : List Input) :
    part (machine.run state inputs) =
      component.run (part state) (machine.fed feed state inputs) := by
  induction inputs generalizing state with
  | nil => rfl
  | cons input rest induction =>
      rw [run_cons, induction (keeps state input initially),
        each state input initially, fed, run_append]

/-- A run that is fed one part is fed it by one input. -/
theorem exists_of_fed_eq_singleton {Part : Type*}
    {feed : State → Input → List Part} {state : State}
    {inputs : List Input} {part : Part}
    (once : machine.fed feed state inputs = [part]) :
    ∃ before input after,
      inputs = before ++ input :: after ∧
        feed (machine.run state before) input = [part] := by
  induction inputs generalizing state with
  | nil => contradiction
  | cons input rest induction =>
      rcases List.append_eq_singleton_iff.mp once with
        ⟨-, later⟩ | ⟨here, -⟩
      · rcases induction later with ⟨before, met, after, rfl, brings⟩
        exact ⟨input :: before, met, after, rfl, brings⟩
      · exact ⟨[], input, rest, rfl, here⟩

/-- Where each input feeds at most one part, every part has its input. -/
theorem exists_of_fed_toList_eq_append {Part : Type*}
    {feed : State → Input → Option Part} {state : State}
    {inputs : List Input} {first rest : List Part} {part : Part}
    (cut :
      machine.fed (fun state input => (feed state input).toList) state
          inputs =
        first ++ part :: rest) :
    ∃ before input after,
      inputs = before ++ input :: after ∧
        machine.fed (fun state input => (feed state input).toList) state
            before =
          first ∧
          feed (machine.run state before) input = some part := by
  induction inputs generalizing state first with
  | nil =>
      have lengths := congrArg List.length cut
      rw [List.length_append, List.length_cons] at lengths
      exact absurd lengths (Nat.ne_of_lt (Nat.succ_pos _))
  | cons input others induction =>
      rw [fed] at cut
      cases brings : feed state input with
      | none =>
          rw [brings, Option.toList_none, List.nil_append] at cut
          rcases induction cut with ⟨before, met, after, rfl, fedBefore, here⟩
          refine ⟨input :: before, met, after, rfl, ?_, here⟩
          rw [fed, brings, Option.toList_none, List.nil_append, fedBefore]
      | some head =>
          rw [brings, Option.toList_some, List.singleton_append] at cut
          cases first with
          | nil =>
              rw [List.nil_append, List.cons_eq_cons] at cut
              refine ⟨[], input, others, rfl, rfl, ?_⟩
              rw [run_nil, brings, cut.1]
          | cons made tail =>
              rw [List.cons_append, List.cons_eq_cons] at cut
              rcases induction cut.2 with
                ⟨before, met, after, rfl, fedBefore, here⟩
              refine ⟨input :: before, met, after, rfl, ?_, here⟩
              rw [fed, brings, Option.toList_some, List.singleton_append,
                fedBefore, cut.1]

/-- Notes on what a part is fed, at most one for each input. -/
theorem fed_filterMap_sublist {Part Note : Type*}
    {feed : State → Input → List Part} {note : Part → Option Note}
    {source : Input → Note}
    (each :
      ∀ state input,
        ((feed state input).filterMap note).Sublist [source input])
    (state : State) (inputs : List Input) :
    ((machine.fed feed state inputs).filterMap note).Sublist
      (inputs.map source) := by
  induction inputs generalizing state with
  | nil => exact List.Sublist.refl _
  | cons input rest induction =>
      rw [fed, List.filterMap_append, List.map_cons]
      exact (each state input).append (induction _)

theorem fed_concat {Part : Type*} (feed : State → Input → List Part)
    (state : State) (inputs : List Input) (input : Input) :
    machine.fed feed state (inputs ++ [input]) =
      machine.fed feed state inputs ++
        feed (machine.run state inputs) input := by
  induction inputs generalizing state with
  | nil =>
      show feed state input ++ [] = [] ++ feed state input
      rw [List.append_nil, List.nil_append]
  | cons head rest induction =>
      rw [List.cons_append, fed, induction, fed, run_cons,
        List.append_assoc]

/-! ## Flags -/

/-- Every step of the run that `sets` is followed by one that `clears`. -/
def Undone (machine : Machine State Input Output)
    (sets clears : State → Input → Prop) (state : State)
    (inputs : List Input) : Prop :=
  ∀ first input rest, inputs = first ++ input :: rest →
    sets (machine.run state first) input →
      ∃ middle undo tail,
        rest = middle ++ undo :: tail ∧
          clears (machine.run state (first ++ input :: middle)) undo

section Flags

variable {sets clears : State → Input → Prop} {state : State}
  {inputs : List Input} {last : Input}

omit last in
/-- A split of a run is at its last step or before it. -/
theorem concat_eq_append_cons {last input : Input}
    {first rest : List Input} :
    inputs ++ [last] = first ++ input :: rest ↔
      (first = inputs ∧ input = last ∧ rest = []) ∨
        ∃ front,
          rest = front ++ [last] ∧ inputs = first ++ input :: front := by
  constructor
  · intro split
    rcases List.eq_nil_or_concat' rest with rfl | ⟨front, final, rfl⟩
    · rcases List.append_inj' split rfl with ⟨rfl, same⟩
      exact .inl ⟨rfl, (List.singleton_inj.mp same).symm, rfl⟩
    · rw [← List.cons_append, ← List.append_assoc] at split
      rcases List.append_inj' split rfl with ⟨rfl, same⟩
      rw [List.singleton_inj.mp same]
      exact .inr ⟨front, rfl, rfl⟩
  · rintro (⟨rfl, rfl, rfl⟩ | ⟨front, rfl, rfl⟩)
    · rfl
    · simp

/-- A run that ends with a step that clears has everything undone. -/
theorem undone_concat_of_clears
    (clearing : clears (machine.run state inputs) last)
    (apart : ¬ sets (machine.run state inputs) last) :
    machine.Undone sets clears state (inputs ++ [last]) := by
  intro first input rest split setting
  rcases concat_eq_append_cons.mp split with
    ⟨rfl, rfl, rfl⟩ | ⟨front, rfl, rfl⟩
  · exact absurd setting apart
  · exact ⟨front, last, [], rfl, clearing⟩

/-- A run that ends with a step that sets has not everything undone. -/
theorem not_undone_concat_of_sets
    (setting : sets (machine.run state inputs) last) :
    ¬ machine.Undone sets clears state (inputs ++ [last]) := by
  intro undone
  rcases undone inputs last [] rfl setting with
    ⟨middle, undo, tail, split, -⟩
  simp at split

/-- Any other last step does not matter. -/
theorem undone_concat_iff
    (quiet : ¬ sets (machine.run state inputs) last)
    (keeping : ¬ clears (machine.run state inputs) last) :
    machine.Undone sets clears state (inputs ++ [last]) ↔
      machine.Undone sets clears state inputs := by
  constructor
  · rintro undone first input rest rfl setting
    rcases undone first input (rest ++ [last]) (by simp) setting with
      ⟨middle, undo, tail, split, clearing⟩
    rcases concat_eq_append_cons.mp split with
      ⟨rfl, rfl, rfl⟩ | ⟨tail, rfl, rfl⟩
    · exact absurd clearing keeping
    · exact ⟨middle, undo, tail, rfl, clearing⟩
  · intro undone first input rest split setting
    rcases concat_eq_append_cons.mp split with
      ⟨rfl, rfl, rfl⟩ | ⟨rest, rfl, whole⟩
    · exact absurd setting quiet
    · rcases undone first input rest whole setting with
        ⟨middle, undo, tail, rfl, clearing⟩
      exact ⟨middle, undo, tail ++ [last], by simp, clearing⟩

end Flags

/--
A flag that some steps set, some clear and the others leave alone is clear
after a run exactly when everything that set it was undone.
-/
theorem flag_eq_false_iff_undone
    {flag : State → Bool} {sets clears : State → Input → Prop}
    (set :
      ∀ state input,
        sets state input → flag (machine.next state input) = true)
    (cleared :
      ∀ state input,
        clears state input → flag (machine.next state input) = false)
    (kept :
      ∀ state input,
        ¬ sets state input → ¬ clears state input →
          flag (machine.next state input) = flag state)
    {state : State} (initially : flag state = false)
    (inputs : List Input) :
    flag (machine.run state inputs) = false ↔
      machine.Undone sets clears state inputs := by
  induction inputs using List.reverseRecOn with
  | nil =>
      refine iff_of_true initially ?_
      intro first input rest split
      simp at split
  | append_singleton inputs last induction =>
      rw [run_append, run_cons, run_nil]
      by_cases clearing : clears (machine.run state inputs) last
      · have off := cleared _ _ clearing
        have apart : ¬ sets (machine.run state inputs) last := by
          intro setting
          rw [set _ _ setting] at off
          simp at off
        exact iff_of_true off (undone_concat_of_clears clearing apart)
      · by_cases setting : sets (machine.run state inputs) last
        · refine iff_of_false ?_ (not_undone_concat_of_sets setting)
          rw [set _ _ setting]
          simp
        · rw [kept _ _ setting clearing, induction,
            undone_concat_iff setting clearing]

/-- An output of a run is the output of one of its steps. -/
theorem exists_step_of_mem_outputs
    {state : State} {inputs : List Input} {output : Output}
    (member : output ∈ machine.outputs state inputs) :
    ∃ before input after,
      inputs = before ++ input :: after ∧
        machine.output (machine.run state before) input = output := by
  induction inputs generalizing state with
  | nil => simp at member
  | cons input rest induction =>
      rcases List.mem_cons.mp member with rfl | later
      · exact ⟨[], input, rest, rfl, rfl⟩
      · rcases induction later with ⟨before, met, after, rfl, equal⟩
        exact ⟨input :: before, met, after, rfl, equal⟩

/--
Bounded progress.  While `inside` lasts, no step raises the measure and every
step that counts lowers it, unless it is the last one.  Then a run with more
steps that count than the measure allows contains the last step.
-/
theorem exists_last_of_measure
    {inside : State → Prop} {last : State → Input → Prop}
    {measure : State → Nat} {counts : Input → Bool}
    (progress :
      ∀ state input, inside state →
        last state input ∨
          inside (machine.next state input) ∧
            measure (machine.next state input) + (counts input).toNat ≤
              measure state)
    {state : State} {inputs : List Input} (begins : inside state)
    (enough : measure state < inputs.countP counts) :
    ∃ before input after,
      inputs = before ++ input :: after ∧
        machine.EachState inside state before ∧
        last (machine.run state before) input := by
  induction inputs generalizing state with
  | nil => exact absurd enough (Nat.not_lt_zero _)
  | cons input rest induction =>
      rcases progress state input begins with ends | ⟨goesOn, lower⟩
      · exact ⟨[], input, rest, rfl, begins, ends⟩
      · have remaining :
            measure (machine.next state input) < rest.countP counts := by
          rw [List.countP_cons] at enough
          cases counted : counts input with
          | true =>
              rw [counted, if_pos rfl] at enough
              rw [counted, Bool.toNat_true] at lower
              omega
          | false =>
              rw [counted, if_neg Bool.false_ne_true] at enough
              rw [counted, Bool.toNat_false] at lower
              omega
        rcases induction goesOn remaining with
          ⟨before, met, after, rfl, along, ends⟩
        exact ⟨input :: before, met, after, rfl, ⟨begins, along⟩, ends⟩

/-- The inputs of a run that an observer sees, with their outputs. -/
def observed (machine : Machine State Input Output)
    (visible : Input → Bool) (state : State) (inputs : List Input) :
    List (Input × Output) :=
  (inputs.zip (machine.outputs state inputs)).filter fun pair =>
    visible pair.1

/--
Separation.  What an observer sees of the state is left alone by the other
inputs, and decides what the visible ones do.  Then a run looks the same when
the other inputs are left out of it.
-/
theorem separation
    {View : Type*} {view : State → View} {visible : Input → Bool}
    (leaves :
      ∀ state input, visible input = false →
        view (machine.next state input) = view state)
    (decides :
      ∀ first second input, visible input = true →
        view first = view second →
          view (machine.next first input) =
              view (machine.next second input) ∧
            machine.output first input = machine.output second input)
    {first second : State} (inputs : List Input)
    (same : view first = view second) :
    view (machine.run first inputs) =
        view (machine.run second (inputs.filter visible)) ∧
      (machine.observed visible first inputs).map Prod.snd =
        machine.outputs second (inputs.filter visible) := by
  induction inputs generalizing first second with
  | nil => exact ⟨same, rfl⟩
  | cons input rest induction =>
      unfold observed
      rw [outputs_cons, List.zip_cons_cons]
      cases seen : visible input with
      | true =>
          have step := decides first second input seen same
          rcases induction step.1 with ⟨views, answers⟩
          simp only [List.filter_cons, seen, if_true]
          refine ⟨views, ?_⟩
          rw [outputs_cons, List.map_cons, step.2]
          exact congrArg (machine.output second input :: ·) answers
      | false =>
          simp only [List.filter_cons, seen, Bool.false_eq_true, if_false]
          exact induction ((leaves first input seen).trans same)

/-- A condition that always holds is met by every run. -/
theorem eachStep_of_forall {property : State → Input → Prop}
    (always : ∀ state input, property state input) (state : State)
    (inputs : List Input) : machine.EachStep property state inputs := by
  induction inputs generalizing state with
  | nil => trivial
  | cons input rest induction =>
      exact ⟨always state input, induction (machine.next state input)⟩

/-- A condition on the inputs alone is met when each of them meets it. -/
theorem eachStep_of_mem {admissible : Input → Prop} {inputs : List Input}
    (admitted : ∀ input ∈ inputs, admissible input) (state : State) :
    machine.EachStep (fun _ input => admissible input) state inputs := by
  induction inputs generalizing state with
  | nil => trivial
  | cons input rest induction =>
      refine ⟨admitted input List.mem_cons_self, induction ?_ _⟩
      intro other member
      exact admitted other (List.mem_cons_of_mem _ member)

/-- An unconditional invariant holds in every reachable state. -/
theorem Reachable.invariant
    {invariant : State → Prop} {initial state : State}
    (reachable : machine.Reachable initial state)
    (initially : invariant initial)
    (keeps :
      ∀ state input,
        invariant state → invariant (machine.next state input)) :
    invariant state := by
  rcases reachable with ⟨inputs, rfl⟩
  have conditions : machine.EachStep (fun _ _ => True) initial inputs :=
    machine.eachStep_of_forall (fun _ _ => trivial) initial inputs
  exact
    (eachState_of_eachStep
      (fun state input holds _ => keeps state input holds)
      initially conditions).last

end Machine

end SlpClient.Lib
