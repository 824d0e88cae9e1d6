import ProjEsp32.CooperativeTask
import ProjEsp32.TransitionRuns
import ProjEsp32.UpdatePolicy

/-!
# Automatic update checks

The scheduler reads the policy once a second and arms its check task when the
policy has changed. A reading that fails disarms the task but leaves the
observed policy as it was, so that the same policy read again is no change.
-/

namespace ProjEsp32.UpdateScheduler

open ArduinoJson CooperativeTask FirmwarePackageVerifier TransitionRuns UpdatePolicy

variable {α : Type}

/-- The greatest number of 32 bits. -/
def UINT32_MAX : ℕ := 2^32 - 1

/-- Which acquisitions of the scheduler lock succeed. -/
structure SchedulerLocks where
  /-- The start of the scheduler. -/
  begins : Bool := true
  /-- The comparison with the observed policy. -/
  observes : Bool := true
  /-- The note that the check task is armed. -/
  arms : Bool := true
  /-- The note that it is disarmed. -/
  disarms : Bool := true
  /-- The reading of the network flag. -/
  reads : Bool := true
  /-- The note that a check is requested. -/
  attempts : Bool := true
  /-- The note of the answer. -/
  results : Bool := true

/-- The variables of the scheduler. The check task runs forever once enabled. -/
structure Scheduler where
  /-- `begin` has been called. -/
  schedulerReady : Bool := false
  /-- The network is there. -/
  networkAvailable : Bool := false
  /-- Checks are planned. -/
  schedulerArmed : Bool := false
  /-- The policy that was read last is enabled. -/
  observedEnabled : Bool := false
  /-- Its revision. -/
  observedRevision : ℕ := UINT32_MAX
  /-- Its interval. -/
  observedIntervalSeconds : ℕ := 0
  /-- What became of the last check. -/
  lastRequestResult : String := "never"
  /-- The task that checks. -/
  automaticCheckTask : Task := { interval := 60000 }
  deriving DecidableEq

/-- Milliseconds of an interval, in 32 bits. -/
def intervalMs (seconds : ℕ) : ℕ := seconds * 1000 % 2^32

/-- Disable the check task and say why. -/
def disarm (locks : SchedulerLocks) (reason : String) (s : Scheduler) : Scheduler :=
  let s := { s with automaticCheckTask := s.automaticCheckTask.disable }
  if !locks.disarms then s else { s with schedulerArmed := false, lastRequestResult := reason }

/-- Arm or disarm the check task when the policy has changed. -/
def applyPolicy (locks : SchedulerLocks) (config : CheckConfig) (s : Scheduler) : Scheduler :=
  if !locks.observes then s
  else if config.revision = s.observedRevision ∧ config.enabled = s.observedEnabled ∧
      config.intervalSeconds = s.observedIntervalSeconds then s
  else
    let s := { s with observedRevision := config.revision
                      observedEnabled := config.enabled
                      observedIntervalSeconds := config.intervalSeconds }
    if !config.enabled then disarm locks "disabled" s
    else
      let task := (s.automaticCheckTask.setInterval (intervalMs config.intervalSeconds)).restart
      let s := { s with automaticCheckTask := task }
      if !locks.arms then s else { s with schedulerArmed := true, lastRequestResult := "armed" }

/-- The reason that is noted for an unreadable policy. -/
def policyError (error : String) : String :=
  if error.length != 0 then error else "policy_unavailable"

/-- The callback of the policy watch, with what it reads of the policy. -/
def policyWatchCallback (locks : SchedulerLocks) (config : Except String CheckConfig)
    (s : Scheduler) : Scheduler :=
  match config with
  | .error error => disarm locks (policyError error) s
  | .ok config => applyPolicy locks config s

/-- The callback of the check task, with what it reads of the policy and the
answer of `requestCheck`. -/
def automaticCheckCallback (locks : SchedulerLocks) (config : Except String CheckConfig)
    (requestCheck : Except String Unit) (s : Scheduler) : Scheduler :=
  match config with
  | .error error => disarm locks (policyError error) s
  | .ok config =>
    if !config.enabled then disarm locks "disabled" s
    else if !locks.reads then s
    else
      let task := s.automaticCheckTask.setInterval (intervalMs config.intervalSeconds)
      if !s.networkAvailable then
        let s := { s with automaticCheckTask := task.restart }
        if !locks.results then s else { s with lastRequestResult := "network_unavailable" }
      else if !locks.attempts then { s with automaticCheckTask := task }
      else
        let s := { s with automaticCheckTask := task, lastRequestResult := "requesting" }
        match requestCheck with
        | .ok _ => if !locks.results then s else { s with lastRequestResult := "accepted" }
        | .error error =>
          if !locks.results then s
          else
            let s := { s with
              lastRequestResult := if error.length != 0 then error else "request_rejected" }
            if error = "remote_update_busy" || error = "state_lock_timeout" then
              { s with automaticCheckTask := task.restart }
            else s

/-- `begin`: forget everything and apply the policy at once. -/
def begin (locks : SchedulerLocks) (config : Except String CheckConfig) (s : Scheduler) :
    Scheduler :=
  if !locks.begins then s
  else
    policyWatchCallback locks config
      { s with schedulerReady := true, networkAvailable := false, schedulerArmed := false
               observedEnabled := false, observedRevision := UINT32_MAX
               observedIntervalSeconds := 0, lastRequestResult := "never"
               automaticCheckTask := s.automaticCheckTask.disable }

/-! ### Runs of policy and scheduler -/

/-- The policy store and the scheduler that watches it. -/
structure System where
  /-- The policy. -/
  store : PolicyStore
  /-- The scheduler. -/
  scheduler : Scheduler := {}

/-- What happens to them: the calls of the policy store, and the calls and
callbacks of the scheduler, each with the answers it gets. -/
inductive Event where
  | beginPolicy (locked opens : Bool)
  | postPolicy (locked putSucceeds : Bool) (form : PolicyForm)
  | recordResult (locked putSucceeds : Bool) (result : String)
  | begin (policyLocked : Bool)
  | policyWatch (policyLocked : Bool)
  | automaticCheck (policyLocked : Bool) (requestCheck : Except String Unit)
  | setNetworkAvailable (available : Bool)

/-- One event. The check task runs its callback when it is enabled. -/
def happen (lib : JsonLibrary α) (identity : FirmwareIdentity) (locks : SchedulerLocks)
    (s : System) : Event → System
  | .beginPolicy locked opens =>
    { s with store := (UpdatePolicy.begin lib identity locked opens s.store).1 }
  | .postPolicy locked putSucceeds form =>
    { s with store := (UpdatePolicy.postPolicy lib identity locked putSucceeds form s.store).1 }
  | .recordResult locked putSucceeds result =>
    { s with store := (UpdatePolicy.recordResult lib locked putSucceeds result s.store).1 }
  | .begin policyLocked =>
    { s with scheduler := begin locks (automaticCheckConfig policyLocked s.store) s.scheduler }
  | .policyWatch policyLocked =>
    { s with
      scheduler :=
        policyWatchCallback locks (automaticCheckConfig policyLocked s.store) s.scheduler }
  | .automaticCheck policyLocked requestCheck =>
    let (task, runs) := s.scheduler.automaticCheckTask.pass true
    let scheduler := { s.scheduler with automaticCheckTask := task }
    if runs then
      { s with
        scheduler := automaticCheckCallback locks (automaticCheckConfig policyLocked s.store)
          requestCheck scheduler }
    else { s with scheduler }
  | .setNetworkAvailable available =>
    { s with scheduler := { s.scheduler with networkAvailable := available } }

/-- What the scheduler compares of a policy. -/
def policyKey (config : CheckConfig) : ℕ × Bool × ℕ :=
  (config.revision, config.enabled, config.intervalSeconds)

/-- The past of a run, as far as it matters for the next reading. -/
structure History where
  /-- The last policy that a watch has read since `begin`. -/
  watched : Option (ℕ × Bool × ℕ) := none
  /-- Since the watch first read it, a reading has failed, or a check has found
  the policy disabled. -/
  lapsed : Bool := false

/-- A watch has read the policy, or failed to. -/
def History.watch (h : History) : Except String CheckConfig → History
  | .error _ => { h with lapsed := true }
  | .ok config =>
    if h.watched = some (policyKey config) then h else ⟨some (policyKey config), false⟩

/-- A check has read the policy, or failed to. -/
def History.check (h : History) : Except String CheckConfig → History
  | .error _ => { h with lapsed := true }
  | .ok config => if config.enabled then h else { h with lapsed := true }

/-- The past after one more event. -/
def History.note (store : PolicyStore) (h : History) : Event → History
  | .begin policyLocked => History.watch {} (automaticCheckConfig policyLocked store)
  | .policyWatch policyLocked => h.watch (automaticCheckConfig policyLocked store)
  | .automaticCheck policyLocked _ => h.check (automaticCheckConfig policyLocked store)
  | _ => h

/-- A run together with its past. -/
structure Tracked where
  /-- The policy and the scheduler. -/
  system : System
  /-- What has been read of the policy so far. -/
  history : History := {}

/-- One event with every lock of the scheduler acquired, and its trace in the past. -/
def track (lib : JsonLibrary α) (identity : FirmwareIdentity) (t : Tracked) (event : Event) :
    Tracked where
  system := happen lib identity {} t.system event
  history := t.history.note t.system.store event

/-- The policy that the watch of this event reads, if it runs and can. -/
def watchedConfig (store : PolicyStore) : Event → Except String CheckConfig
  | .begin policyLocked => automaticCheckConfig policyLocked store
  | .policyWatch policyLocked => automaticCheckConfig policyLocked store
  | _ => .error "no_watch"

/-- After a watch that has read the policy the scheduler is armed, and the
check task enabled, when the policy is enabled, and neither when it is not. -/
def ArmsAsRead (lib : JsonLibrary α) (identity : FirmwareIdentity) (t : Tracked) (event : Event) :
    Prop :=
  ∀ config, watchedConfig t.system.store event = .ok config →
    (track lib identity t event).system.scheduler.schedulerArmed = config.enabled ∧
    (track lib identity t event).system.scheduler.automaticCheckTask.enabled = config.enabled

/-- No watch reads an enabled policy again that has lapsed since it was read first. -/
def NothingLapsed (t : Tracked) (event : Event) : Prop :=
  ∀ policyLocked config, event = .policyWatch policyLocked →
    automaticCheckConfig policyLocked t.system.store = .ok config → config.enabled = true →
    t.history.watched = some (policyKey config) → t.history.lapsed = false

/-- The scheduler is what its past makes it. -/
structure Agrees (s : Scheduler) (h : History) : Prop where
  /-- What is observed is what was read last. -/
  observed : (s.observedRevision, s.observedEnabled, s.observedIntervalSeconds) =
    h.watched.getD (UINT32_MAX, false, 0)
  /-- The scheduler is armed when that is enabled and has not lapsed. -/
  armed : s.schedulerArmed = (s.observedEnabled && !h.lapsed)
  /-- And so is the check task enabled. -/
  enabled : s.automaticCheckTask.enabled = (s.observedEnabled && !h.lapsed)
  /-- The check task runs forever. -/
  forever : s.automaticCheckTask.iterations = none
  /-- Also when it is restarted. -/
  restarts : s.automaticCheckTask.setIterations = none

variable {s : Scheduler} {h : History}

/-- A reading that fails lapses the policy and disarms the task. -/
theorem Agrees.disarm (hagrees : Agrees s h) (reason : String) :
    Agrees (disarm {} reason s) { h with lapsed := true } where
  observed := hagrees.observed
  armed := by simp [UpdateScheduler.disarm]
  enabled := by simp [UpdateScheduler.disarm]
  forever := hagrees.forever
  restarts := hagrees.restarts

/-- The policy is unchanged exactly when it is the one that was observed. -/
theorem unchanged_iff (config : CheckConfig) :
    (config.revision = s.observedRevision ∧ config.enabled = s.observedEnabled ∧
      config.intervalSeconds = s.observedIntervalSeconds) ↔
    (s.observedRevision, s.observedEnabled, s.observedIntervalSeconds) = policyKey config := by
  simp [policyKey, eq_comm]

/-- A changed policy starts a new past. -/
theorem Agrees.changed (hagrees : Agrees s h) (config : CheckConfig)
    (hchanged : (s.observedRevision, s.observedEnabled, s.observedIntervalSeconds) ≠
      policyKey config) :
    Agrees (applyPolicy {} config s) ⟨some (policyKey config), false⟩ := by
  unfold applyPolicy
  rw [if_neg (by simp), if_neg (by rwa [unchanged_iff])]
  cases henabled : config.enabled with
  | false =>
    exact
      { observed := by simp [UpdateScheduler.disarm, policyKey, henabled]
        armed := rfl
        enabled := rfl
        forever := hagrees.forever
        restarts := hagrees.restarts }
  | true =>
    exact
      { observed := by simp [policyKey, henabled]
        armed := rfl
        enabled := rfl
        forever := hagrees.restarts
        restarts := hagrees.restarts }

/-- Reading the policy keeps scheduler and past in agreement. -/
theorem Agrees.watch (hagrees : Agrees s h) (config : Except String CheckConfig) :
    Agrees (policyWatchCallback {} config s) (h.watch config) := by
  cases config with
  | error error => exact hagrees.disarm (policyError error)
  | ok config =>
    simp only [policyWatchCallback, History.watch]
    by_cases hsame : (s.observedRevision, s.observedEnabled, s.observedIntervalSeconds) =
        policyKey config
    · have hkept : applyPolicy {} config s = s := by
        unfold applyPolicy
        rw [if_neg (by simp), if_pos ((unchanged_iff config).mpr hsame)]
      rw [hkept]
      by_cases hwatched : h.watched = some (policyKey config)
      · rw [if_pos hwatched]
        exact hagrees
      · rw [if_neg hwatched]
        -- only the policy that stands for none can be equal to an unread one
        have hdisabled : s.observedEnabled = false := by
          have hobserved := hagrees.observed
          cases hnone : h.watched with
          | none =>
            rw [hnone, Option.getD_none] at hobserved
            exact congrArg (·.2.1) hobserved
          | some key =>
            rw [hnone, Option.getD_some, hsame] at hobserved
            rw [hnone, hobserved] at hwatched
            exact absurd rfl hwatched
        have harmed := hagrees.armed
        have henabled := hagrees.enabled
        rw [hdisabled, Bool.false_and] at harmed henabled
        exact
          { hagrees with
            observed := hsame
            armed := by rw [harmed, hdisabled, Bool.false_and]
            enabled := by rw [henabled, hdisabled, Bool.false_and] }
    · have hwatched : h.watched ≠ some (policyKey config) := by
        intro hwatched
        have hobserved := hagrees.observed
        rw [hwatched] at hobserved
        exact hsame hobserved
      rw [if_neg hwatched]
      exact hagrees.changed config hsame

/-- A check that reads an enabled policy leaves its task as it was: enabled and
running forever. -/
theorem automaticCheckCallback_enabled {config : CheckConfig} (henabled : config.enabled = true)
    (answer : Except String Unit) (hagrees : Agrees s h)
    (hrunning : s.automaticCheckTask.enabled = true) :
    Agrees (automaticCheckCallback {} (.ok config) answer s) h := by
  have hlive := hagrees.enabled
  rw [hrunning] at hlive
  simp only [automaticCheckCallback, henabled, Bool.not_true, Bool.false_eq_true, if_false]
  split
  · exact ⟨hagrees.observed, hagrees.armed, hlive, hagrees.restarts, hagrees.restarts⟩
  · split
    · exact { hagrees with }
    · split
      · exact ⟨hagrees.observed, hagrees.armed, hlive, hagrees.restarts, hagrees.restarts⟩
      · exact { hagrees with }

/-- A check keeps scheduler and past in agreement. -/
theorem Agrees.check (hagrees : Agrees s h) (config : Except String CheckConfig)
    (answer : Except String Unit) (hrunning : s.automaticCheckTask.enabled = true) :
    Agrees (automaticCheckCallback {} config answer s) (h.check config) := by
  cases config with
  | error error => exact hagrees.disarm (policyError error)
  | ok config =>
    cases henabled : config.enabled with
    | true =>
      simp only [History.check, henabled, if_true]
      exact automaticCheckCallback_enabled henabled answer hagrees hrunning
    | false =>
      simp only [automaticCheckCallback, History.check, henabled, Bool.not_false, if_true,
        Bool.false_eq_true, if_false]
      exact hagrees.disarm "disabled"

/-- A disabled scheduler has nothing left to lapse. -/
theorem Agrees.lapse (hagrees : Agrees s h) (hdisabled : s.automaticCheckTask.enabled = false) :
    Agrees s { h with lapsed := true } where
  observed := hagrees.observed
  armed := by
    have harmed := hagrees.armed
    rw [← hagrees.enabled, hdisabled] at harmed
    simp [harmed]
  enabled := by simp [hdisabled]
  forever := hagrees.forever
  restarts := hagrees.restarts

/-- A check whose task is disabled does not run, and changes nothing. -/
theorem Agrees.check_disabled (hagrees : Agrees s h)
    (hdisabled : s.automaticCheckTask.enabled = false) (config : Except String CheckConfig) :
    Agrees s (h.check config) := by
  unfold History.check
  split
  · exact hagrees.lapse hdisabled
  · split
    · exact hagrees
    · exact hagrees.lapse hdisabled

/-- After `begin` nothing has been observed and nothing is armed. -/
theorem agrees_begin (config : Except String CheckConfig)
    (hforever : s.automaticCheckTask.iterations = none)
    (hrestarts : s.automaticCheckTask.setIterations = none) :
    Agrees (begin {} config s) (History.watch {} config) := by
  unfold begin
  rw [if_neg (by simp)]
  apply Agrees.watch
  exact ⟨rfl, rfl, rfl, hforever, hrestarts⟩

/-- Every event keeps scheduler and past in agreement. -/
theorem agrees_track (lib : JsonLibrary α) (identity : FirmwareIdentity) (t : Tracked)
    (event : Event) (hagrees : Agrees t.system.scheduler t.history) :
    Agrees (track lib identity t event).system.scheduler (track lib identity t event).history := by
  cases event with
  | beginPolicy locked opens => exact hagrees
  | postPolicy locked putSucceeds form => exact hagrees
  | recordResult locked putSucceeds result => exact hagrees
  | begin policyLocked => exact agrees_begin _ hagrees.forever hagrees.restarts
  | policyWatch policyLocked => exact hagrees.watch _
  | automaticCheck policyLocked answer =>
    simp only [track, happen, History.note]
    cases henabled : t.system.scheduler.automaticCheckTask.enabled with
    | false =>
      rw [Task.pass_of_disabled henabled]
      exact hagrees.check_disabled henabled _
    | true =>
      have hready : t.system.scheduler.automaticCheckTask.ready = true := by
        simp [Task.ready, Task.hasIteration, henabled, hagrees.forever]
      rw [Task.pass_of_ready hready]
      dsimp only
      rw [if_pos rfl]
      apply Agrees.check
      · exact ⟨hagrees.observed, hagrees.armed, hagrees.enabled, by simp [hagrees.forever],
          hagrees.restarts⟩
      · exact henabled
  | setNetworkAvailable available =>
    exact { hagrees with }

/-- What the scheduler is after a watch that has read a policy. -/
theorem Agrees.armed_of_watched (hagrees : Agrees s h) {config : CheckConfig}
    (hwatched : h.watched = some (policyKey config)) :
    s.schedulerArmed = (config.enabled && !h.lapsed) ∧
      s.automaticCheckTask.enabled = (config.enabled && !h.lapsed) := by
  have hobserved := hagrees.observed
  rw [hwatched, Option.getD_some] at hobserved
  have henabled : s.observedEnabled = config.enabled := congrArg (·.2.1) hobserved
  rw [← henabled]
  exact ⟨hagrees.armed, hagrees.enabled⟩

/-- A policy that has just been read is the last one read, and it has lapsed
only when it had before. -/
theorem History.watch_ok (h : History) (config : CheckConfig) :
    (h.watch (.ok config)).watched = some (policyKey config) ∧
      ((h.watch (.ok config)).lapsed = true ↔
        h.watched = some (policyKey config) ∧ h.lapsed = true) := by
  unfold History.watch
  dsimp only
  by_cases hwatched : h.watched = some (policyKey config)
  · rw [if_pos hwatched]
    exact ⟨hwatched, by simp [hwatched]⟩
  · rw [if_neg hwatched]
    exact ⟨rfl, by simp [hwatched]⟩

/-- What a watch leaves is armed as read unless the policy had lapsed before. -/
theorem Agrees.arms_iff {config : CheckConfig} (hagrees : Agrees s (h.watch (.ok config))) :
    (s.schedulerArmed = config.enabled ∧ s.automaticCheckTask.enabled = config.enabled) ↔
      (config.enabled = true → h.watched = some (policyKey config) → h.lapsed = false) := by
  obtain ⟨hwatched, hlapsed⟩ := History.watch_ok h config
  obtain ⟨harmed, henabled⟩ := hagrees.armed_of_watched hwatched
  rw [harmed, henabled]
  cases config.enabled <;> cases hold : (h.watch (.ok config)).lapsed <;> simp_all

/-- One event arms as read exactly when it is not the watch of a lapsed policy. -/
theorem armsAsRead_iff (lib : JsonLibrary α) (identity : FirmwareIdentity) (t : Tracked)
    (event : Event) (hagrees : Agrees t.system.scheduler t.history) :
    ArmsAsRead lib identity t event ↔ NothingLapsed t event := by
  have hnext := agrees_track lib identity t event hagrees
  cases event with
  | begin policyLocked =>
    constructor
    · intro _ _ _ hevent
      cases hevent
    · intro _ config hconfig
      have hread : automaticCheckConfig policyLocked t.system.store = .ok config := hconfig
      simp only [track, History.note, hread] at hnext
      refine hnext.arms_iff.mpr ?_
      intro _ hwatched
      cases hwatched
  | policyWatch policyLocked =>
    constructor
    · intro harms _ config hevent hconfig
      cases hevent
      have harmed := harms config hconfig
      simp only [track, History.note, hconfig] at hnext harmed
      exact hnext.arms_iff.mp harmed
    · intro hnothing config hconfig
      have hread : automaticCheckConfig policyLocked t.system.store = .ok config := hconfig
      simp only [track, History.note, hread] at hnext
      exact hnext.arms_iff.mpr (hnothing policyLocked config rfl hconfig)
  | beginPolicy _ _ => simp [ArmsAsRead, NothingLapsed, watchedConfig]
  | postPolicy _ _ _ => simp [ArmsAsRead, NothingLapsed, watchedConfig]
  | recordResult _ _ _ => simp [ArmsAsRead, NothingLapsed, watchedConfig]
  | automaticCheck _ _ => simp [ArmsAsRead, NothingLapsed, watchedConfig]
  | setNetworkAvailable _ => simp [ArmsAsRead, NothingLapsed, watchedConfig]

/-- In every run with every scheduler lock acquired, every watch that reads the
policy arms or disarms as it has read exactly when no watch reads a policy again
that has lapsed since. -/
theorem armsAsRead_run (lib : JsonLibrary α) (identity : FirmwareIdentity) (store : PolicyStore)
    (events : List Event) :
    Throughout (track lib identity) (ArmsAsRead lib identity) ⟨⟨store, {}⟩, {}⟩ events ↔
      Throughout (track lib identity) NothingLapsed ⟨⟨store, {}⟩, {}⟩ events := by
  have hfresh : Agrees {} {} := ⟨rfl, rfl, rfl, rfl, rfl⟩
  refine throughout_congr (I := fun t => Agrees t.system.scheduler t.history) ?_ ?_ hfresh events
  · exact fun t event hagrees _ => agrees_track lib identity t event hagrees
  · exact fun t event hagrees => armsAsRead_iff lib identity t event hagrees

/-- A JSON library that prints one policy. -/
def samplePolicyJson : JsonLibrary ℕ where
  deserializeJson _ _ := none
  serializeJson _ :=
    "\x7b\"schema\":1,\"revision\":1,\"enabled\":true," ++
    "\"manifest_url\":\"https://updates.local/manifest.json\",\"channel\":\"dev\"," ++
    "\"interval_seconds\":60,\"last_check_epoch\":0,\"last_result\":\"policy_updated\"\x7d"
  setMember _ document key value := document.withMember key value

/-- A policy is enabled, and one reading between two others fails. -/
def transientFailure : List Event :=
  [.beginPolicy true true,
    .postPolicy true true { enabled := some "true"
                            manifestUrl := some "https://updates.local/manifest.json"
                            intervalSeconds := some "60" },
    .begin true, .policyWatch false, .policyWatch true]

/-- The last reading finds the policy enabled, and leaves the scheduler disarmed. -/
theorem armsAsRead_transient : ¬ Throughout (track samplePolicyJson {})
    (ArmsAsRead samplePolicyJson {}) ⟨⟨{ policy := { channel := "dev" } }, {}⟩, {}⟩
    transientFailure := by
  intro h
  have hlast := h.2.2.2.2.1 ⟨true, "https://updates.local/manifest.json", 60, 1⟩
    (by decide +kernel)
  exact absurd hlast.1 (by decide +kernel)

end ProjEsp32.UpdateScheduler
