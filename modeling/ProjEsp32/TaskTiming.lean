import Mathlib.Algebra.Group.Nat.Defs
import Mathlib.Data.List.Basic

/-!
# When a task is due

The timing of the tasks of the cooperative scheduler, third-party code. Its functions
are a parameter of the modules that use them; what it documents of them is a
hypothesis of their results. It reads a clock of 32 bits that wraps around, and what
is documented is about a clock that does not. Events that keep a distance from each
other are bounded in number in any window.
-/

namespace ProjEsp32.TaskTiming

variable {T : Type*}

/-- The library: what its calls make of the timer of a task, with the reading of the
clock at the call. -/
structure Timers (T : Type*) where
  /-- `setInterval(interval)`. -/
  setInterval : ℕ → ℕ → T → T
  /-- `restartDelayed(delay)`. -/
  restartDelayed : ℕ → ℕ → T → T
  /-- A pass at this reading runs the enabled task. -/
  due : ℕ → T → Bool
  /-- The timer when the callback of a task that is run is called. -/
  iterate : T → T

/-- What the library documents, where `Waits t base delay` says that the timer has been
waiting since `base` for `delay` milliseconds. -/
structure Timers.Documented (timers : Timers T) (Waits : T → ℕ → ℕ → Prop) : Prop where
  /-- A new interval is waited for from the call on. -/
  setInterval : ∀ interval now t, Waits (timers.setInterval interval (now % 2^32) t) now interval
  /-- A restart waits for its delay from the call on. -/
  restartDelayed : ∀ delay now t, delay ≠ 0 →
    Waits (timers.restartDelayed delay (now % 2^32) t) now delay
  /-- A task is not run before it has waited. -/
  early : ∀ t base delay now, Waits t base delay → base ≤ now →
    timers.due (now % 2^32) t = true → base + delay ≤ now
  /-- From then on it is run, until the clock has wrapped around. -/
  late : ∀ t base delay now, Waits t base delay → base + delay ≤ now → now < base + 2^32 →
    timers.due (now % 2^32) t = true
  /-- The next iteration counts from when this one was due. -/
  iterate : ∀ t base delay, Waits t base delay →
    ∃ interval, Waits (timers.iterate t) (base + delay) interval

end ProjEsp32.TaskTiming
