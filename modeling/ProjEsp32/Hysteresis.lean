import ProjEsp32.TransitionRuns
import Mathlib.Data.List.Chain
import Mathlib.Order.Lattice

/-!
# Two-point control with a dead band

An output goes on below one threshold and off above another, and stays where it
is between them. What a run of inputs leaves is read from its last input outside
of the band; what changes on the way alternates.
-/

namespace ProjEsp32.Hysteresis

open TransitionRuns

variable {α : Type*} [LinearOrder α]

/-- The output after one input. -/
def respond (low high : α) (on : Bool) (input : α) : Bool :=
  if input < low then true else if high < input then false else on

/-- The output after a run of inputs. -/
def settle (low high : α) (on : Bool) (inputs : List α) : Bool :=
  run (respond low high) on inputs

/-- The input is outside of the dead band. -/
def outside (low high input : α) : Bool := input < low || high < input

/-- The last input outside of the dead band. -/
def lastOutside (low high : α) (inputs : List α) : Option α :=
  (inputs.filter (outside low high)).getLast?

/-- The values that the output changes to, in order. -/
def changes (low high : α) : Bool → List α → List Bool
  | _, [] => []
  | on, input::inputs =>
    let next := respond low high on input
    if next = on then changes low high next inputs else next::changes low high next inputs

variable {low high input : α} {on : Bool} {inputs : List α}

/-- Inside the band the output stays. -/
theorem respond_of_inside (h : outside low high input = false) :
    respond low high on input = on := by
  simp only [outside, Bool.or_eq_false_iff, decide_eq_false_iff_not] at h
  rw [respond, if_neg h.1, if_neg h.2]

/-- Outside of it the side decides. -/
theorem respond_of_outside (h : outside low high input = true) :
    respond low high on input = decide (input < low) := by
  simp only [outside, Bool.or_eq_true, decide_eq_true_eq] at h
  by_cases hlow : input < low
  · rw [respond, if_pos hlow, decide_eq_true hlow]
  · rw [respond, if_neg hlow, if_pos (h.resolve_left hlow), decide_eq_false hlow]

/-- One more input is the last outside of the band, or leaves the last one. -/
theorem lastOutside_concat (inputs : List α) (input : α) :
    lastOutside low high (inputs ++ [input]) =
      if outside low high input = true then some input else lastOutside low high inputs := by
  unfold lastOutside
  rw [List.filter_append]
  cases houtside : outside low high input with
  | true => simp [List.filter, houtside]
  | false => simp [List.filter, houtside]

/-- The last input outside of the band decides; without one the output stays. -/
theorem settle_eq (low high : α) (on : Bool) (inputs : List α) :
    settle low high on inputs =
      match lastOutside low high inputs with
      | some input => decide (input < low)
      | none => on := by
  -- The last input is looked at first, so that the induction is from the end.
  induction inputs using List.reverseRecOn with
  | nil => rfl
  | append_singleton inputs input ih =>
    have hlast : settle low high on (inputs ++ [input]) =
        respond low high (settle low high on inputs) input := by
      simp only [settle, run_append, run_cons, run_nil]
    rw [hlast, lastOutside_concat]
    cases houtside : outside low high input with
    | true =>
      rw [if_pos rfl]
      exact respond_of_outside houtside
    | false =>
      rw [if_neg (by simp), respond_of_inside houtside]
      exact ih

/-- The last input outside of the band is one of the inputs. -/
theorem mem_of_lastOutside (h : lastOutside low high inputs = some input) :
    input ∈ inputs ∧ outside low high input = true :=
  List.mem_filter.mp (List.mem_of_getLast? h)

/-- An output that went from on to off has met an input above the band. -/
theorem exists_above_of_settle (h : settle low high true inputs = false) :
    ∃ input ∈ inputs, high < input := by
  rw [settle_eq] at h
  cases hlast : lastOutside low high inputs with
  | none =>
    rw [hlast] at h
    cases h
  | some input =>
    rw [hlast] at h
    obtain ⟨hmem, houtside⟩ := mem_of_lastOutside hlast
    simp only [outside, Bool.or_eq_true, decide_eq_true_eq] at houtside
    have hlow : ¬input < low := of_decide_eq_false h
    exact ⟨input, hmem, houtside.resolve_left hlow⟩

/-- The first change is away from where the output was, and every other one is
away from the one before. -/
theorem changes_alternate (low high : α) (on : Bool) (inputs : List α) :
    (on::changes low high on inputs).IsChain (· ≠ ·) := by
  induction inputs generalizing on with
  | nil => exact List.isChain_singleton _
  | cons input inputs ih =>
    rw [changes]
    have hnext := ih (respond low high on input)
    split
    · rename_i hsame
      rw [hsame] at hnext ⊢
      exact hnext
    · rename_i hchanged
      exact List.isChain_cons_cons.mpr ⟨Ne.symm hchanged, hnext⟩

end ProjEsp32.Hysteresis
