import Mathlib.Data.Nat.Notation

/-!
# Tasks of a cooperative scheduler

A task is a callback that a pass of the scheduler runs when it is enabled, has
an iteration left and is due. The last iteration leaves the task enabled; the
next pass finds it without an iteration and disables it. Which callback runs
is up to the module that owns the task.

The scheduler is the TaskScheduler library, third-party code. Of what it documents the
tasks here have that a restart enables a task with all its iterations, that a one-shot task
stays enabled through its callback, and that the pass after it disables the task. When a
task is due is its own affair: each pass is told.
-/

namespace ProjEsp32.CooperativeTask

/-- The scheduling state of one task. -/
structure Task where
  /-- Milliseconds between two iterations. -/
  interval : ℕ := 0
  /-- Iterations that a restart gives; none for a task that runs forever. -/
  setIterations : Option ℕ := none
  /-- Iterations left to run. -/
  iterations : Option ℕ := none
  /-- `isEnabled()`. -/
  enabled : Bool := false
  deriving DecidableEq

namespace Task

variable {t : Task}

/-- An iteration is left to run. -/
def hasIteration (t : Task) : Bool := t.iterations != some 0

/-- The task is enabled with an iteration still to run. -/
def ready (t : Task) : Bool := t.enabled && t.hasIteration

/-- The task has run its last iteration and no pass has disabled it since. -/
def spent (t : Task) : Bool := t.enabled && !t.hasIteration

/-- `restart()` and `restartDelayed()`; they differ in when the task is due. -/
def restart (t : Task) : Task := { t with enabled := true, iterations := t.setIterations }

/-- `enable()` and `enableDelayed()`; the iterations that are left stay. -/
def enable (t : Task) : Task := { t with enabled := true }

/-- `disable()`. -/
def disable (t : Task) : Task := { t with enabled := false }

/-- `setInterval()`. -/
def setInterval (interval : ℕ) (t : Task) : Task := { t with interval }

/-- One pass of the scheduler over the task: the task after it, before its
callback, and whether the callback is run. -/
def pass (due : Bool) (t : Task) : Task × Bool :=
  if !t.enabled then (t, false)
  else if !t.hasIteration then (t.disable, false)
  else if !due then (t, false)
  else ({ t with iterations := t.iterations.map (· - 1) }, true)

/-- A restarted task is enabled. -/
@[simp] theorem restart_enabled : t.restart.enabled = true := rfl

/-- A restarted task has its iterations again. -/
@[simp] theorem restart_iterations : t.restart.iterations = t.setIterations := rfl

/-- A disabled task is not enabled. -/
@[simp] theorem disable_enabled : t.disable.enabled = false := rfl

/-- An enabled task is enabled. -/
@[simp] theorem enable_enabled : t.enable.enabled = true := rfl

/-- Enabling keeps the iterations that are left. -/
@[simp] theorem enable_iterations : t.enable.iterations = t.iterations := rfl

/-- Disabling keeps the iterations that are left. -/
@[simp] theorem disable_iterations : t.disable.iterations = t.iterations := rfl

/-- A disabled task is passed over. -/
theorem pass_of_disabled {due : Bool} (h : t.enabled = false) : t.pass due = (t, false) := by
  simp [pass, h]

/-- A spent task is disabled. -/
theorem pass_of_spent {due : Bool} (h : t.spent = true) : t.pass due = (t.disable, false) := by
  simp only [spent, Bool.and_eq_true, Bool.not_eq_true'] at h
  simp [pass, h.1, h.2]

/-- A ready task that is not due waits on. -/
theorem pass_of_not_due (h : t.ready = true) : t.pass false = (t, false) := by
  simp only [ready, Bool.and_eq_true] at h
  simp [pass, h.2]

/-- A ready task that is due runs its callback. -/
theorem pass_of_ready (h : t.ready = true) :
    t.pass true = ({ t with iterations := t.iterations.map (· - 1) }, true) := by
  simp only [ready, Bool.and_eq_true] at h
  simp [pass, h.1, h.2]

/-- A task that runs forever is left as it is by every pass, and runs when it is
enabled and due. -/
theorem pass_of_forever {due : Bool} (h : t.iterations = none) :
    t.pass due = (t, t.enabled && due) := by
  have hiteration : t.hasIteration = true := by simp [hasIteration, h]
  cases henabled : t.enabled with
  | false => rw [pass_of_disabled henabled, Bool.false_and]
  | true =>
    have hready : t.ready = true := by simp [ready, henabled, hiteration]
    cases due with
    | false => rw [pass_of_not_due hready, Bool.and_false]
    | true =>
      have hkept : { t with iterations := t.iterations.map (· - 1) } = t := by
        rw [h, Option.map_none, ← h]
      rw [pass_of_ready hready, hkept, Bool.true_and]

/-! ### One-shot tasks -/

/-- A task that runs at most once for each restart. -/
structure OneShot (t : Task) : Prop where
  /-- A restart gives one iteration. -/
  setIterations : t.setIterations = some 1
  /-- Which is left, or used up. -/
  iterations : t.iterations = some 0 ∨ t.iterations = some 1

/-- The runs that wait. -/
def pending (t : Task) : ℕ := if t.ready then 1 else 0

/-- A restart keeps the task one of a single iteration. -/
theorem OneShot.restart (h : t.OneShot) : t.restart.OneShot :=
  ⟨h.setIterations, .inr h.setIterations⟩

/-- A disable keeps the task one of a single iteration. -/
theorem OneShot.disable (h : t.OneShot) : t.disable.OneShot :=
  ⟨h.setIterations, h.iterations⟩

/-- A pass keeps the task one of a single iteration. -/
theorem OneShot.pass (h : t.OneShot) (due : Bool) : (t.pass due).1.OneShot := by
  unfold Task.pass
  split
  · exact h
  split
  · exact h.disable
  split
  · exact h
  · refine ⟨h.setIterations, .inl ?_⟩
    rcases h.iterations with hnone | hone
    · simp [hnone]
    · simp [hone]

/-- A restart leaves one run waiting. -/
theorem OneShot.pending_restart (h : t.OneShot) : t.restart.pending = 1 := by
  have hready : t.restart.ready = true := by
    simp [Task.ready, Task.hasIteration, h.setIterations]
  simp [pending, hready]

/-- Nothing waits while the task is not enabled. -/
theorem pending_of_disabled (h : t.enabled = false) : t.pending = 0 := by
  simp [pending, Task.ready, h]

/-- A pass takes a run that waits, or leaves what waits. -/
theorem OneShot.pending_pass (h : t.OneShot) (due : Bool) :
    t.pending = (t.pass due).1.pending + if (t.pass due).2 then 1 else 0 := by
  cases hready : t.ready with
  | true =>
    cases due with
    | false =>
      rw [pass_of_not_due hready]
      simp
    | true =>
      have hone : t.iterations = some 1 := by
        rcases h.iterations with hnone | hone
        · simp [Task.ready, Task.hasIteration, hnone] at hready
        · exact hone
      have hspent :
          ({ t with iterations := t.iterations.map (· - 1) } : Task).ready = false := by
        simp [Task.ready, Task.hasIteration, hone]
      rw [pass_of_ready hready]
      simp [pending, hready, hspent]
  | false =>
    cases henabled : t.enabled with
    | false =>
      rw [pass_of_disabled henabled]
      simp
    | true =>
      have hspent : t.spent = true := by
        simp only [Task.ready, henabled, Bool.true_and] at hready
        simp [Task.spent, henabled, hready]
      have hdisabled : t.disable.pending = 0 := pending_of_disabled rfl
      rw [pass_of_spent hspent, hdisabled]
      simp [pending, hready]

end Task

end ProjEsp32.CooperativeTask
