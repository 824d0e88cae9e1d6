import Mathlib.Data.List.Basic

/-!
# State machines

The state machine library, third-party code. A machine has a table of
transitions; a trigger takes one of them at once, and the function that the
target runs on entry is up to the module that owns the machine.
-/

namespace ProjEsp32.MachineLibrary

variable {S E : Type*} [DecidableEq S] [DecidableEq E]

/-- A transition of a machine. -/
structure Transition (S E : Type*) where
  /-- The state that it leaves. -/
  source : S
  /-- The state that it enters. -/
  target : S
  /-- The event that it is taken on. -/
  event : E

/-- The library: the state of a running machine after `trigger`. -/
structure Machines (S E : Type*) where
  /-- `trigger`, with the table of the machine. -/
  trigger : List (Transition S E) → E → S → S

/-- The first transition of the table that leaves the state on the event. -/
def firstTransition (table : List (Transition S E)) (event : E) (state : S) :
    Option (Transition S E) :=
  table.find? fun transition => transition.source = state ∧ transition.event = event

/-- What the library documents: a trigger takes the transition that leaves the
current state on the event, and without one it does nothing. -/
structure Machines.Takes (machines : Machines S E) : Prop where
  /-- A trigger takes the transition that there is. -/
  taken : ∀ table event state transition, firstTransition table event state = some transition →
    machines.trigger table event state = transition.target
  /-- Without one it does nothing. -/
  ignored : ∀ table event state, firstTransition table event state = none →
    machines.trigger table event state = state

/-- Machines that do what the library documents. -/
def sampleMachines : Machines S E where
  trigger table event state := ((firstTransition table event state).map (·.target)).getD state

/-- The sample machine takes the transitions of its table. -/
theorem sampleMachines_takes : (sampleMachines (S := S) (E := E)).Takes where
  taken := by
    intro table event state transition h
    simp only [sampleMachines, h, Option.map_some, Option.getD_some]
  ignored := by
    intro table event state h
    simp only [sampleMachines, h, Option.map_none, Option.getD_none]

end ProjEsp32.MachineLibrary
