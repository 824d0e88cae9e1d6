import ProjEsp32.MachineLibrary

/-!
# State machines with entry functions

The state machine library with what `MachineLibrary` leaves out: a machine does
nothing before it has run once, and each call tells which entry functions it has
called. A module that keeps its own copy of the state in those functions reads
here that the copy is the machine's state.
-/

namespace ProjEsp32.MachineEntries

open MachineLibrary

variable {S E : Type*} [DecidableEq S] [DecidableEq E]

/-- The variables of a machine. -/
structure Machine (S : Type*) where
  /-- The current state. -/
  current : S
  /-- The machine has run once. -/
  initialized : Bool := false
  deriving DecidableEq

/-- The library. A call gives the machine after it and the states whose entry
functions it has called, in order. -/
structure EntryMachines (S E : Type*) where
  /-- `run_machine`. -/
  runMachine : Machine S → Machine S × List S
  /-- `trigger`, with the table of the machine. -/
  trigger : List (Transition S E) → E → Machine S → Machine S × List S

/-- What the library documents: the first run enters the first state, a trigger of
a machine that has run takes the transition that leaves the current state on the
event, and everything else does nothing. -/
structure EntryMachines.Documented (machines : EntryMachines S E) : Prop where
  /-- The first run enters the current state. -/
  first : ∀ m, m.initialized = false →
    machines.runMachine m = ({ m with initialized := true }, [m.current])
  /-- A later run does nothing. -/
  again : ∀ m, m.initialized = true → machines.runMachine m = (m, [])
  /-- Before the first run a trigger does nothing. -/
  early : ∀ table event m, m.initialized = false → machines.trigger table event m = (m, [])
  /-- A trigger takes the transition that there is. -/
  taken : ∀ table event m transition, m.initialized = true →
    firstTransition table event m.current = some transition →
      machines.trigger table event m =
        ({ m with current := transition.target }, [transition.target])
  /-- Without one it does nothing. -/
  ignored : ∀ table event m, m.initialized = true →
    firstTransition table event m.current = none → machines.trigger table event m = (m, [])

/-- Machines that do what the library documents. -/
def sampleEntryMachines : EntryMachines S E where
  runMachine m := if m.initialized then (m, []) else ({ m with initialized := true }, [m.current])
  trigger table event m :=
    if m.initialized then
      match firstTransition table event m.current with
      | some transition => ({ m with current := transition.target }, [transition.target])
      | none => (m, [])
    else (m, [])

/-- The sample machine is as documented. -/
theorem sampleEntryMachines_documented :
    (sampleEntryMachines (S := S) (E := E)).Documented where
  first := by
    intro m h
    simp [sampleEntryMachines, h]
  again := by
    intro m h
    simp [sampleEntryMachines, h]
  early := by
    intro table event m h
    simp [sampleEntryMachines, h]
  taken := by
    intro table event m transition hrun htaken
    simp [sampleEntryMachines, hrun, htaken]
  ignored := by
    intro table event m hrun hnone
    simp [sampleEntryMachines, hrun, hnone]

variable {machines : EntryMachines S E} {table : List (Transition S E)} {event : E}
variable {m : Machine S}

/-- The library, for a machine that runs already. -/
def EntryMachines.running (machines : EntryMachines S E) : Machines S E where
  trigger table event state :=
    (machines.trigger table event { current := state, initialized := true }).1.current

/-- A documented machine takes the transitions of its table. -/
theorem EntryMachines.Documented.takes (h : machines.Documented) : machines.running.Takes where
  taken := by
    intro table event state transition htaken
    have hrunning := h.taken table event { current := state, initialized := true } transition rfl
      htaken
    simp only [EntryMachines.running, hrunning]
  ignored := by
    intro table event state hnone
    have hrunning := h.ignored table event { current := state, initialized := true } rfl hnone
    simp only [EntryMachines.running, hrunning]

/-- The state that a trigger leads to. -/
def nextState (table : List (Transition S E)) (event : E) (state : S) : S :=
  ((firstTransition table event state).map (·.target)).getD state

/-- A trigger of a machine that has run leads to the next state, and whoever copies
the entered states ends with the current one. -/
theorem trigger_spec (h : machines.Documented) (hrun : m.initialized = true) :
    machines.trigger table event m =
      ({ m with current := nextState table event m.current },
        if (firstTransition table event m.current).isSome = true then
          [nextState table event m.current]
        else []) := by
  cases hfirst : firstTransition table event m.current with
  | none =>
    rw [h.ignored table event m hrun hfirst]
    simp [nextState, hfirst]
  | some transition =>
    rw [h.taken table event m transition hrun hfirst]
    simp [nextState, hfirst]

end ProjEsp32.MachineEntries
