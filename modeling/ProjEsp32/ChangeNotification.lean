import Mathlib.Data.List.Destutter
import ProjEsp32.TransitionRuns

/-!
# Change notification

A system that appends to a log each value that it changes to. Along every run the log
grows by the successive distinct values, so that whoever reads all of it knows the
value that the system has, and no value is noted twice in a row.
-/

namespace ProjEsp32.ChangeNotification

open TransitionRuns

variable {State Label V W : Type*} [DecidableEq V]
variable {step : State → Label → State} {code : V → W} {I : State → Prop}

/-- The values along a run, the first one included. -/
def trajectory (step : State → Label → State) (value : State → V) :
    State → List Label → List V
  | start, [] => [value start]
  | start, label::labels => value start :: trajectory step value (step start label) labels

/-- The successive distinct values along a run, without the first one. -/
def changes (step : State → Label → State) (value : State → V) (start : State)
    (labels : List Label) : List V :=
  ((trajectory step value start labels).destutter (· ≠ ·)).tail

/-- What a step that is noted appends. -/
def noted (code : V → W) (before after : V) : List W := if after = before then [] else [code after]

omit [DecidableEq V] in
/-- A trajectory begins at its start. -/
theorem trajectory_eq_cons (step : State → Label → State) (value : State → V) (start : State)
    (labels : List Label) : ∃ rest, trajectory step value start labels = value start :: rest := by
  cases labels with
  | nil => exact ⟨[], rfl⟩
  | cons label labels => exact ⟨_, rfl⟩

/-- Without its repetitions it begins there too, and the changes follow. -/
theorem destutter_eq_cons (step : State → Label → State) (value : State → V) (start : State)
    (labels : List Label) : (trajectory step value start labels).destutter (· ≠ ·) =
      value start :: changes step value start labels := by
  obtain ⟨rest, hrest⟩ := trajectory_eq_cons step value start labels
  unfold changes
  rw [hrest, List.destutter_cons']
  have hhead : ∀ (first : V) (values : List V),
      values.destutter' (· ≠ ·) first = first :: (values.destutter' (· ≠ ·) first).tail := by
    intro first values
    induction values generalizing first with
    | nil => rfl
    | cons second values ih =>
      by_cases hsame : first ≠ second
      · rw [List.destutter'_cons_pos _ hsame]
        rfl
      · rw [List.destutter'_cons_neg _ hsame]
        exact ih first
  exact hhead _ _

/-- The changes along a run are those of its first step and of the rest. -/
theorem changes_cons (step : State → Label → State) (value : State → V) (start : State)
    (label : Label) (labels : List Label) :
    changes step value start (label::labels) =
      noted id (value start) (value (step start label)) ++
        changes step value (step start label) labels := by
  obtain ⟨rest, hrest⟩ := trajectory_eq_cons step value (step start label) labels
  have hnext := destutter_eq_cons step value (step start label) labels
  rw [hrest, List.destutter_cons'] at hnext
  have htrajectory : trajectory step value start (label::labels) =
      value start :: value (step start label) :: rest := by
    rw [← hrest]
    rfl
  unfold changes noted
  rw [htrajectory, hrest, List.destutter_cons', List.destutter_cons']
  by_cases hsame : value (step start label) = value start
  · rw [List.destutter'_cons_neg _ (by simp [hsame]), if_pos hsame, hsame, List.nil_append]
  · rw [List.destutter'_cons_pos _ (Ne.symm hsame), if_neg hsame, hnext]
    rfl

/-- What determines the value changes as the value does. -/
theorem changes_injective [DecidableEq W] (step : State → Label → State) (value : State → V)
    {f : V → W} (hf : Function.Injective f) (start : State) (labels : List Label) :
    changes step (fun s => f (value s)) start labels = (changes step value start labels).map f := by
  induction labels generalizing start with
  | nil => simp [changes, trajectory]
  | cons label labels ih =>
    have hnoted : noted id (f (value start)) (f (value (step start label))) =
        (noted id (value start) (value (step start label))).map f := by
      unfold noted
      simp only [hf.eq_iff]
      split <;> rfl
    rw [changes_cons, changes_cons, List.map_append, ih (step start label), hnoted]

/-- A log to which each step appends what it changes grows along every run by the
changes. -/
theorem log_run (value : State → V) (log : State → List W) (hkeep : ∀ s l, I s → I (step s l))
    (hnoted : ∀ s l, I s → log (step s l) = log s ++ noted code (value s) (value (step s l)))
    {start : State} (hstart : I start) (labels : List Label) :
    log (run step start labels) = log start ++ (changes step value start labels).map code := by
  induction labels generalizing start with
  | nil => simp [changes, trajectory]
  | cons label labels ih =>
    rw [run_cons, ih (hkeep start label hstart), hnoted start label hstart, changes_cons,
      List.map_append, List.append_assoc]
    congr 2
    unfold noted
    split <;> rfl

/-- The last change is the value that the run ends with; without one it is the first. -/
theorem getLastD_changes (step : State → Label → State) (value : State → V) (start : State)
    (labels : List Label) :
    (changes step value start labels).getLastD (value start) = value (run step start labels) := by
  induction labels generalizing start with
  | nil => rfl
  | cons label labels ih =>
    rw [changes_cons, run_cons, ← ih (step start label)]
    unfold noted
    by_cases hsame : value (step start label) = value start
    · rw [if_pos hsame, List.nil_append, hsame]
    · rw [if_neg hsame]
      cases changes step value (step start label) labels with
      | nil => rfl
      | cons head tail => rfl

/-- No value is noted twice in a row. -/
theorem isChain_changes (step : State → Label → State) (value : State → V) (start : State)
    (labels : List Label) :
    (value start :: changes step value start labels).IsChain (· ≠ ·) := by
  rw [← destutter_eq_cons]
  exact List.isChain_destutter _ _

end ProjEsp32.ChangeNotification
