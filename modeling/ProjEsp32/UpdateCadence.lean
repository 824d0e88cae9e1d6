import ProjEsp32.PolicyDurability
import ProjEsp32.TaskTiming
import ProjEsp32.UpdateScheduler

/-!
# The cadence of automatic update checks

The scheduler of automatic checks with its timer, and with what it reports of its times.
However the policy changes, whatever is answered and whichever lock is not acquired, the
requests for a check keep their distance, and the due time that is reported is the one at
which the next check runs, as long as the timers of the scheduler do what is documented.
-/

namespace ProjEsp32.UpdateCadence

open ArduinoJson CooperativeTask FirmwarePackageVerifier TaskTiming TransitionRuns UpdatePolicy
open UpdateScheduler (Scheduler SchedulerLocks UINT32_MAX intervalMs policyError)

variable {α T : Type}

/-- Milliseconds until a check is tried again. -/
def RETRY_DELAY_MS : ℕ := 15000

/-- A call of `requestCheck` by the scheduler. -/
structure Request where
  /-- When it is made, by a clock that does not wrap around. -/
  atMs : ℕ
  /-- What it returns. -/
  accepted : Bool
  deriving DecidableEq

/-- The distance that is kept from a request: the shortest interval of a policy after one
that was accepted, the delay of a retry after one that was not. -/
def Request.rest (r : Request) : ℕ :=
  if r.accepted then MIN_INTERVAL_SECONDS * 1000 else RETRY_DELAY_MS

/-- The variables of the scheduler, with its times and its counters. -/
structure Cadence (T : Type) where
  /-- The variables that do not depend on the time. -/
  scheduler : Scheduler := {}
  /-- The timer of `automaticCheckTask`. -/
  timer : T
  /-- When the task is due next, by the clock of 32 bits. -/
  nextDueMs : ℕ := 0
  /-- When the last check was requested. -/
  lastAttemptMs : ℕ := 0
  /-- When the last accepted check was requested. -/
  lastAcceptedMs : ℕ := 0
  /-- The requests for a check, as a counter of 32 bits. -/
  attemptCount : ℕ := 0
  /-- The accepted ones, as a counter of 32 bits. -/
  acceptedCount : ℕ := 0
  /-- The requests so far, by a clock that does not wrap around; nothing reads them. -/
  requests : List Request := []
  deriving DecidableEq

/-- `disarm`. -/
def disarm (locks : SchedulerLocks) (reason : String) (c : Cadence T) : Cadence T :=
  let c := { c with scheduler := UpdateScheduler.disarm locks reason c.scheduler }
  if !locks.disarms then c else { c with nextDueMs := 0 }

/-- `applyPolicy`. -/
def applyPolicy (timers : Timers T) (locks : SchedulerLocks) (now : ℕ) (config : CheckConfig)
    (c : Cadence T) : Cadence T :=
  if !locks.observes then c
  else if config.revision = c.scheduler.observedRevision ∧
      config.enabled = c.scheduler.observedEnabled ∧
      config.intervalSeconds = c.scheduler.observedIntervalSeconds then c
  else
    let c := { c with
      scheduler := { c.scheduler with
        observedRevision := config.revision
        observedEnabled := config.enabled
        observedIntervalSeconds := config.intervalSeconds } }
    if !config.enabled then disarm locks "disabled" c
    else
      let delayMs := intervalMs config.intervalSeconds
      let task := (c.scheduler.automaticCheckTask.setInterval delayMs).restart
      let c := { c with
        scheduler := { c.scheduler with automaticCheckTask := task }
        timer := timers.restartDelayed delayMs (now % 2^32)
          (timers.setInterval delayMs (now % 2^32) c.timer) }
      if !locks.arms then c
      else { c with
        scheduler := { c.scheduler with schedulerArmed := true, lastRequestResult := "armed" }
        nextDueMs := (now + delayMs) % 2^32 }

/-- `policyWatchCallback`. -/
def policyWatchCallback (timers : Timers T) (locks : SchedulerLocks) (now : ℕ)
    (config : Except String CheckConfig) (c : Cadence T) : Cadence T :=
  match config with
  | .error error => disarm locks (policyError error) c
  | .ok config => applyPolicy timers locks now config c

/-- The task is restarted after the delay of a retry. -/
def retry (timers : Timers T) (now : ℕ) (c : Cadence T) : Cadence T :=
  { c with
    scheduler := { c.scheduler with
      automaticCheckTask := c.scheduler.automaticCheckTask.restart }
    timer := timers.restartDelayed RETRY_DELAY_MS (now % 2^32) c.timer }

/-- The result of a check that was not made, or of one that was. -/
def resulted (result : String) (c : Cadence T) : Cadence T :=
  { c with scheduler := { c.scheduler with lastRequestResult := result } }

/-- The part of `automaticCheckCallback` from the call of `requestCheck` on. -/
def requested (timers : Timers T) (locks : SchedulerLocks) (now : ℕ)
    (requestCheck : Except String Unit) (c : Cadence T) : Cadence T :=
  match requestCheck with
  | .ok _ =>
    let c := { c with requests := c.requests ++ [⟨now, true⟩] }
    if !locks.results then c
    else resulted "accepted" { c with
      lastAcceptedMs := now % 2^32
      acceptedCount := (c.acceptedCount + 1) % 2^32 }
  | .error error =>
    let c := { c with requests := c.requests ++ [⟨now, false⟩] }
    if !locks.results then c
    else
      let c := resulted (if error.length != 0 then error else "request_rejected") c
      if error = "remote_update_busy" || error = "state_lock_timeout" then
        { retry timers now c with nextDueMs := (now + RETRY_DELAY_MS) % 2^32 }
      else c

/-- `automaticCheckCallback`. -/
def automaticCheckCallback (timers : Timers T) (locks : SchedulerLocks) (now : ℕ)
    (config : Except String CheckConfig) (requestCheck : Except String Unit) (c : Cadence T) :
    Cadence T :=
  match config with
  | .error error => disarm locks (policyError error) c
  | .ok config =>
    if !config.enabled then disarm locks "disabled" c
    else if !locks.reads then c
    else
      let normalIntervalMs := intervalMs config.intervalSeconds
      let task := c.scheduler.automaticCheckTask.setInterval normalIntervalMs
      let c := { c with
        scheduler := { c.scheduler with automaticCheckTask := task }
        timer := timers.setInterval normalIntervalMs (now % 2^32) c.timer }
      if !c.scheduler.networkAvailable then
        let c := retry timers now c
        if !locks.results then c
        else resulted "network_unavailable" { c with
          nextDueMs := (now + RETRY_DELAY_MS) % 2^32 }
      else if !locks.attempts then c
      else
        requested timers locks now requestCheck <| resulted "requesting" { c with
          lastAttemptMs := now % 2^32
          attemptCount := (c.attemptCount + 1) % 2^32
          nextDueMs := (now + normalIntervalMs) % 2^32 }

/-- `begin`. -/
def begin (timers : Timers T) (locks : SchedulerLocks) (now : ℕ)
    (config : Except String CheckConfig) (c : Cadence T) : Cadence T :=
  if !locks.begins then c
  else
    policyWatchCallback timers locks now config
      { c with
        scheduler := { c.scheduler with
          schedulerReady := true, networkAvailable := false, schedulerArmed := false
          observedEnabled := false, observedRevision := UINT32_MAX
          observedIntervalSeconds := 0, lastRequestResult := "never"
          automaticCheckTask := c.scheduler.automaticCheckTask.disable }
        nextDueMs := 0, lastAttemptMs := 0, lastAcceptedMs := 0, attemptCount := 0
        acceptedCount := 0 }

/-! ### Runs -/

/-- The policy store, the scheduler that watches it, and the time. -/
structure System (T : Type) where
  /-- The policy and the preferences that keep it. -/
  store : PolicyStore
  /-- The scheduler. -/
  cadence : Cadence T
  /-- Milliseconds since the start, without a bound. -/
  clock : ℕ := 0

/-- An event, the time that has passed since the last one, and the locks it acquires. -/
structure Label where
  /-- Milliseconds since the event before. -/
  elapsed : ℕ
  /-- The locks of the scheduler that are acquired. -/
  locks : SchedulerLocks := {}
  /-- What happens. -/
  event : UpdateScheduler.Event

/-- A pass of the scheduler over the check task. -/
def pass (timers : Timers T) (locks : SchedulerLocks) (now : ℕ)
    (config : Except String CheckConfig) (requestCheck : Except String Unit) (c : Cadence T) :
    Cadence T :=
  let passed := c.scheduler.automaticCheckTask.pass (timers.due (now % 2^32) c.timer)
  let c := { c with scheduler := { c.scheduler with automaticCheckTask := passed.1 } }
  if passed.2 then
    automaticCheckCallback timers locks now config requestCheck
      { c with timer := timers.iterate c.timer }
  else c

/-- One event. -/
def step (timers : Timers T) (lib : JsonLibrary α) (identity : FirmwareIdentity) (s : System T)
    (l : Label) : System T :=
  let now := s.clock + l.elapsed
  let s := { s with clock := now }
  match l.event with
  | .beginPolicy locked opens =>
    { s with store := (UpdatePolicy.begin lib identity locked opens s.store).1 }
  | .postPolicy locked putSucceeds form =>
    { s with store := (UpdatePolicy.postPolicy lib identity locked putSucceeds form s.store).1 }
  | .recordResult locked putSucceeds result =>
    { s with store := (UpdatePolicy.recordResult lib locked putSucceeds result s.store).1 }
  | .begin policyLocked =>
    { s with
      cadence :=
        begin timers l.locks now (automaticCheckConfig policyLocked s.store) s.cadence }
  | .policyWatch policyLocked =>
    { s with
      cadence :=
        policyWatchCallback timers l.locks now (automaticCheckConfig policyLocked s.store)
          s.cadence }
  | .automaticCheck policyLocked requestCheck =>
    { s with
      cadence :=
        pass timers l.locks now (automaticCheckConfig policyLocked s.store) requestCheck
          s.cadence }
  | .setNetworkAvailable available =>
    { s with cadence.scheduler.networkAvailable := available }

/-- The scheduler before `begin`, with any text in the preferences of the policy and any
timer of its task. -/
def boot (identity : FirmwareIdentity) (stored : String) (timer : T) : System T where
  store := { policy := { channel := identity.CHANNEL }, stored := stored }
  cadence := { timer }

/-! ### Without the times -/

section Untimed

variable (timers : Timers T) (locks : SchedulerLocks) (now : ℕ) (c : Cadence T)

/-- A disarm of the timed scheduler is one of the scheduler. -/
theorem disarm_scheduler (reason : String) :
    (disarm locks reason c).scheduler = UpdateScheduler.disarm locks reason c.scheduler := by
  unfold disarm
  dsimp only
  split <;> rfl

/-- A timed `applyPolicy` is that of the scheduler. -/
theorem applyPolicy_scheduler (config : CheckConfig) :
    (applyPolicy timers locks now config c).scheduler =
      UpdateScheduler.applyPolicy locks config c.scheduler := by
  unfold applyPolicy UpdateScheduler.applyPolicy
  split
  · rfl
  split
  · rfl
  dsimp only
  split
  · exact disarm_scheduler locks _ "disabled"
  · split <;> rfl

/-- A timed watch is that of the scheduler. -/
theorem policyWatchCallback_scheduler (config : Except String CheckConfig) :
    (policyWatchCallback timers locks now config c).scheduler =
      UpdateScheduler.policyWatchCallback locks config c.scheduler := by
  cases config with
  | error error => exact disarm_scheduler locks c (policyError error)
  | ok config => exact applyPolicy_scheduler timers locks now c config

/-- A timed check is that of the scheduler. -/
theorem automaticCheckCallback_scheduler (config : Except String CheckConfig)
    (requestCheck : Except String Unit) :
    (automaticCheckCallback timers locks now config requestCheck c).scheduler =
      UpdateScheduler.automaticCheckCallback locks config requestCheck c.scheduler := by
  cases config with
  | error error => exact disarm_scheduler locks c (policyError error)
  | ok config =>
    unfold automaticCheckCallback UpdateScheduler.automaticCheckCallback
    dsimp only
    split
    · exact disarm_scheduler locks c "disabled"
    split
    · rfl
    split
    · split <;> rfl
    split
    · rfl
    cases requestCheck with
    | ok _ =>
      unfold requested
      dsimp only
      split <;> rfl
    | error error =>
      unfold requested
      dsimp only
      split
      · rfl
      · split <;> rfl

/-- A timed start is that of the scheduler. -/
theorem begin_scheduler (config : Except String CheckConfig) :
    (begin timers locks now config c).scheduler =
      UpdateScheduler.begin locks config c.scheduler := by
  unfold begin UpdateScheduler.begin
  split
  · rfl
  · exact policyWatchCallback_scheduler timers locks now _ config

/-- A pass does what it does without the times when the task is due; else nothing. -/
theorem pass_scheduler (config : Except String CheckConfig) (requestCheck : Except String Unit) :
    (pass timers locks now config requestCheck c).scheduler =
      let passed := c.scheduler.automaticCheckTask.pass (timers.due (now % 2^32) c.timer)
      if passed.2 then
        UpdateScheduler.automaticCheckCallback locks config requestCheck
          { c.scheduler with automaticCheckTask := passed.1 }
      else { c.scheduler with automaticCheckTask := passed.1 } := by
  unfold pass
  dsimp only
  split
  · exact automaticCheckCallback_scheduler timers locks now _ config requestCheck
  · rfl

end Untimed

/-! ### The interval of a policy -/

section Policies

variable {lib : JsonLibrary α} {identity : FirmwareIdentity} {s : PolicyStore}

end Policies

/-! ### The distance of the requests -/

/-- The timer has been waiting for a delay, and the requests have their distance when it
has passed. -/
structure Rested (Waits : T → ℕ → ℕ → Prop) (timer : T) (requests : List Request)
    (base delay : ℕ) : Prop where
  /-- The timer waits. -/
  waits : Waits timer base delay
  /-- Every request has its distance when it is due. -/
  rested : ∀ r ∈ requests, r.atMs + r.rest ≤ base + delay

/-- The task runs forever, the requests keep their distance, and the timer of an enabled
task waits until the last of them has its own. -/
structure Paced (Waits : T → ℕ → ℕ → Prop) (task : Task) (timer : T) (requests : List Request)
    (now : ℕ) : Prop where
  /-- The task never runs out of iterations. -/
  forever : task.iterations = none
  /-- A restart gives it as many. -/
  restarts : task.setIterations = none
  /-- The requests lie in the past. -/
  past : ∀ r ∈ requests, r.atMs ≤ now
  /-- They keep their distance. -/
  spaced : requests.Pairwise fun first next => first.atMs + first.rest ≤ next.atMs
  /-- The next one will keep it too. -/
  waits : task.enabled = true → ∃ base delay, base ≤ now ∧ Rested Waits timer requests base delay

/-- The requests of a cadence keep their distance. -/
abbrev Cadence.Paced (Waits : T → ℕ → ℕ → Prop) (c : Cadence T) (now : ℕ) : Prop :=
  UpdateCadence.Paced Waits c.scheduler.automaticCheckTask c.timer c.requests now

/-- No request is followed by a wait longer than the shortest interval. -/
theorem rest_le (r : Request) : r.rest ≤ MIN_INTERVAL_SECONDS * 1000 := by
  unfold Request.rest RETRY_DELAY_MS MIN_INTERVAL_SECONDS
  split <;> omega

section Pacing

variable {timers : Timers T} {Waits : T → ℕ → ℕ → Prop} {locks : SchedulerLocks} {now : ℕ}
variable {c : Cadence T} {task : Task} {timer : T} {requests : List Request}

/-- A disabled task makes no request. -/
theorem Paced.disable (h : Paced Waits task timer requests now) :
    Paced Waits task.disable timer requests now where
  forever := h.forever
  restarts := h.restarts
  past := h.past
  spaced := h.spaced
  waits := fun henabled => by cases henabled

/-- The timer of an enabled task may wait from now on until all distances are kept. -/
theorem Paced.wait (h : Paced Waits task timer requests now) {later : T} {delay : ℕ}
    (hlater : Rested Waits later requests now delay) : Paced Waits task later requests now :=
  ⟨h.forever, h.restarts, h.past, h.spaced, fun _ => ⟨now, delay, Nat.le_refl now, hlater⟩⟩

/-- A restarted task rests for what its timer waits. -/
theorem Paced.restart (h : Paced Waits task timer requests now) {later : T} {delay : ℕ}
    (hlater : Rested Waits later requests now delay) :
    Paced Waits task.restart later requests now :=
  ⟨h.restarts, h.restarts, h.past, h.spaced, fun _ => ⟨now, delay, Nat.le_refl now, hlater⟩⟩

/-- An interval of a policy is enough of a distance from any request. -/
theorem Paced.rested (h : Paced Waits task timer requests now) {later : T} {delay : ℕ}
    (hwaits : Waits later now delay) (hdelay : MIN_INTERVAL_SECONDS * 1000 ≤ delay) :
    Rested Waits later requests now delay := by
  refine ⟨hwaits, fun r hr => ?_⟩
  have hpast := h.past r hr
  have hrest := rest_le r
  omega

/-- Time passes. -/
theorem Paced.later (h : Paced Waits task timer requests now) (elapsed : ℕ) :
    Paced Waits task timer requests (now + elapsed) where
  forever := h.forever
  restarts := h.restarts
  past := fun r hr => Nat.le_add_right_of_le (h.past r hr)
  spaced := h.spaced
  waits := fun henabled => by
    obtain ⟨base, delay, hbase, hrested⟩ := h.waits henabled
    exact ⟨base, delay, Nat.le_add_right_of_le hbase, hrested⟩

/-- A request that all earlier ones have left its distance. -/
theorem Paced.request (h : Paced Waits task timer requests now)
    (hrested : ∀ r ∈ requests, r.atMs + r.rest ≤ now) {r : Request} (hr : r.atMs = now)
    {later : T} {delay : ℕ} (hlater : Waits later now delay) (hdelay : r.rest ≤ delay) :
    Paced Waits task later (requests ++ [r]) now where
  forever := h.forever
  restarts := h.restarts
  past := by
    intro r' hr'
    rcases List.mem_append.mp hr' with hbefore | hlast
    · exact h.past r' hbefore
    · rw [List.mem_singleton.mp hlast, hr]
  spaced := by
    refine List.pairwise_append.mpr ⟨h.spaced, List.pairwise_singleton _ _, ?_⟩
    intro first hfirst next hnext
    rw [List.mem_singleton.mp hnext, hr]
    exact hrested first hfirst
  waits := by
    refine fun _ => ⟨now, delay, Nat.le_refl now, hlater, fun r' hr' => ?_⟩
    rcases List.mem_append.mp hr' with hbefore | hlast
    · exact Nat.le_add_right_of_le (hrested r' hbefore)
    · rw [List.mem_singleton.mp hlast, hr]
      omega

variable (hdoc : timers.Documented Waits)
include hdoc

end Pacing

/-! ### The announced time -/

/-- The scheduler is armed when its task is enabled, and reports when that is due. -/
structure Announced (Waits : T → ℕ → ℕ → Prop) (schedulerArmed enabled : Bool) (timer : T)
    (nextDueMs now : ℕ) : Prop where
  /-- It is armed exactly then. -/
  armed : schedulerArmed = enabled
  /-- What is reported is when the timer has waited. -/
  due : enabled = true →
    ∃ base delay, base ≤ now ∧ delay < 2^31 ∧ Waits timer base delay ∧
      nextDueMs = (base + delay) % 2^32

/-- A cadence reports when its task is due. -/
abbrev Cadence.Announced (Waits : T → ℕ → ℕ → Prop) (c : Cadence T) (now : ℕ) : Prop :=
  UpdateCadence.Announced Waits c.scheduler.schedulerArmed c.scheduler.automaticCheckTask.enabled
    c.timer c.nextDueMs now

section Announcing

variable {timers : Timers T} {Waits : T → ℕ → ℕ → Prop} {now : ℕ} {c : Cadence T}

/-- What is announced stays announced as time passes. -/
theorem Announced.later (h : c.Announced Waits now) (elapsed : ℕ) :
    c.Announced Waits (now + elapsed) where
  armed := h.armed
  due := fun henabled => by
    obtain ⟨base, delay, hbase, hdelay, hwaits, hdue⟩ := h.due henabled
    exact ⟨base, delay, Nat.le_add_right_of_le hbase, hdelay, hwaits, hdue⟩

variable (hdoc : timers.Documented Waits)
include hdoc

end Announcing

/-! ### Whole runs -/

section Runs

variable {timers : Timers T} {Waits : T → ℕ → ℕ → Prop}
variable {lib : JsonLibrary α} {identity : FirmwareIdentity} {s : System T}

/-- Without the times, an event is one of the untimed system, or a pass over a check task
that is not due. -/
theorem step_untimed (s : System T) (l : Label) :
    let untimed (s : System T) : UpdateScheduler.System := ⟨s.store, s.cadence.scheduler⟩
    untimed (step timers lib identity s l) =
        UpdateScheduler.happen lib identity l.locks (untimed s) l.event ∨
      timers.due ((s.clock + l.elapsed) % 2^32) s.cadence.timer = false ∧
        untimed (step timers lib identity s l) =
          { untimed s with
            scheduler.automaticCheckTask :=
              (s.cadence.scheduler.automaticCheckTask.pass false).1 } := by
  dsimp only
  unfold step
  cases l.event with
  | beginPolicy locked opens => exact .inl rfl
  | postPolicy locked putSucceeds form => exact .inl rfl
  | recordResult locked putSucceeds result => exact .inl rfl
  | begin policyLocked =>
    refine .inl ?_
    dsimp only
    rw [begin_scheduler]
    rfl
  | policyWatch policyLocked =>
    refine .inl ?_
    dsimp only
    rw [policyWatchCallback_scheduler]
    rfl
  | automaticCheck policyLocked requestCheck =>
    dsimp only
    rw [pass_scheduler]
    cases hdue : timers.due ((s.clock + l.elapsed) % 2^32) s.cadence.timer with
    | true =>
      refine .inl ?_
      unfold UpdateScheduler.happen
      dsimp only
      split <;> rfl
    | false =>
      refine .inr ⟨rfl, ?_⟩
      have hwaits : (s.cadence.scheduler.automaticCheckTask.pass false).2 = false := by
        unfold Task.pass
        split
        · rfl
        split
        · rfl
        · rfl
      dsimp only
      rw [hwaits]
      rfl
  | setNetworkAvailable available => exact .inl rfl

/-- An interval of a minute: a check that is accepted, one that meets a busy updater, and
its retry. -/
def sampleLabels : List Label :=
  [⟨0, {}, .beginPolicy true true⟩,
    ⟨0, {}, .postPolicy true true { enabled := some "true"
                                    manifestUrl := some "https://updates.local/manifest.json"
                                    intervalSeconds := some "60" }⟩,
    ⟨0, {}, .begin true⟩, ⟨10, {}, .setNetworkAvailable true⟩,
    ⟨59989, {}, .automaticCheck true (.ok ())⟩, ⟨1, {}, .automaticCheck true (.ok ())⟩,
    ⟨60000, {}, .automaticCheck true (.error "remote_update_busy")⟩,
    ⟨14999, {}, .automaticCheck true (.ok ())⟩, ⟨1, {}, .automaticCheck true (.ok ())⟩]

end Runs

end ProjEsp32.UpdateCadence
