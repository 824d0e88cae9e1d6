import ProjEsp32.MachineEntries
import ProjEsp32.RuleExecution
import ProjEsp32.TransitionRuns

/-!
# The rule runtime with any providers

The runtime asks functions that it was wired to, any of which may be missing, and
which may answer otherwise each time they are asked. It keeps a copy of its
machine's state, and a one-shot task. Whatever is answered, the copy is the
machine's state, and the task waits only while the runtime is armed.
-/

namespace ProjEsp32.ProvidedRuntime

open ArduinoJson ArduinoText CooperativeTask MachineEntries MachineLibrary RuleEvaluation
open RuntimeCore TransitionRuns
open RuleExecution (Handler RuntimeState RuntimeEvent transitions)

variable {α : Type} [Zero α]

/-- The functions that are there; the others are null pointers. -/
structure Providers where
  /-- `inputReady_`. -/
  inputReady : Bool := true
  /-- `inputValue_`. -/
  inputValue : Bool := true
  /-- `dependencyHealth_`. -/
  dependencyHealth : Bool := true
  /-- `outputState_`. -/
  outputState : Bool := true
  /-- `applyDesired_`. -/
  applyDesired : Bool := true

/-- What the providers and the scheduler answer during one call of the runtime. -/
structure Answers (α : Type) [Zero α] where
  /-- `dependencyHealth_`, asked by `refreshEligibility`. -/
  refreshHealth : HealthState := .Ok
  /-- `dependencyHealth_`, asked by the call itself. -/
  health : HealthState := .Ok
  /-- `inputReady_`, asked once. -/
  inputReady : Bool := true
  /-- `inputValue_`. -/
  inputValue : CFloat α := .finite 0
  /-- `outputState_`. -/
  outputState : Bool := false
  /-- `applyDesired_`, for each desired state. -/
  applyDesired : Bool → Bool := fun _ => true
  /-- `evaluationTask_.restart()`. -/
  restarts : Bool := true

/-- The variables of the runtime. -/
structure RuleRuntime where
  /-- The state machine. -/
  machine : Machine RuntimeState := { current := .Disabled }
  /-- `TASK_IMMEDIATE`, `TASK_ONCE`, not enabled. -/
  evaluationTask : Task := { interval := 0, setIterations := some 1, iterations := some 1 }
  /-- The copy of its state. -/
  state : RuntimeState := .Disabled
  /-- What is done while the dependency is not healthy. -/
  faultPolicy : ActuatorFaultPolicy := .SafeOff
  /-- `begin` has been called. -/
  started : Bool := false
  /-- An evaluation is waited for. -/
  pending : Bool := false
  /-- What became of the last request. -/
  lastRequestResult : String := "never"
  /-- What became of the last run. -/
  lastRunResult : String := "never"
  /-- The policy that was taken up last. -/
  lastPolicyResult : String := "never"
  /-- The calls of `applyDesired_` so far, each with the state it was made in;
  nothing reads them. -/
  applied : List (RuntimeState × Bool) := []
  deriving DecidableEq

/-- The runtime with what it was wired to. -/
structure System (α : Type) [Zero α] where
  /-- The functions that are there. -/
  providers : Providers := {}
  /-- The source of the events that ask for an evaluation. -/
  inputSourceId : String := ""
  /-- The bus. -/
  events : EventBus Handler := {}
  /-- The rule engine. -/
  engine : RuleEngine α := {}
  /-- The runtime. -/
  runtime : RuleRuntime := {}

namespace System

/-- `setState`. -/
def setState (next : RuntimeState) (s : System α) : System α :=
  { s with runtime.state := next }

/-- A call of the machine, with the entry functions that it calls. -/
def entered (called : Machine RuntimeState × List RuntimeState) (s : System α) : System α :=
  called.2.foldl (fun s next => s.setState next) { s with runtime.machine := called.1 }

/-- `machine_.trigger`, and `machine_.run_machine`. -/
def drive (machines : EntryMachines RuntimeState RuntimeEvent) (event : RuntimeEvent)
    (s : System α) : System α :=
  let s := s.entered (machines.trigger transitions event s.runtime.machine)
  s.entered (machines.runMachine s.runtime.machine)

/-- `dependencyHealth`. -/
def dependencyHealth (answer : HealthState) (s : System α) : HealthState :=
  if s.providers.dependencyHealth then answer else .Ok

/-- `dependencyHealthy`. -/
def dependencyHealthy (answer : HealthState) (s : System α) : Bool :=
  s.dependencyHealth answer == .Ok

/-- The results of the last request and of the last run. -/
def requested (result : String) (s : System α) : System α :=
  { s with runtime.lastRequestResult := result }

/-- The runtime records the result of its run. -/
def ran (result : String) (s : System α) : System α :=
  { s with runtime.lastRunResult := result }

/-- The rule is suspended by the health of what it depends on. -/
def dependencySuspends (answer : HealthState) (s : System α) : Bool :=
  s.runtime.faultPolicy == .DisableRule && !s.dependencyHealthy answer

/-- `refreshEligibility`. -/
def refreshEligibility (machines : EntryMachines RuntimeState RuntimeEvent) (answer : HealthState)
    (s : System α) : System α :=
  if !s.runtime.started then s
  else if !s.engine.isEnabled || s.dependencySuspends answer then
    let suspends := s.dependencySuspends answer
    let task := s.runtime.evaluationTask
    let s := { s with
      runtime.pending := false
      runtime.evaluationTask := if task.enabled then task.disable else task }
    let s := if s.runtime.state != .Disabled then s.drive machines .EventDisarm else s
    s.requested (if suspends then "dependency_fault_disable_rule"
      else if !s.engine.configured then "no_active_rule"
      else "rule_disabled")
  else if s.runtime.state == .Disabled then s.drive machines .EventArm
  else s

/-- `setFaultPolicy`. -/
def setFaultPolicy (machines : EntryMachines RuntimeState RuntimeEvent) (answer : HealthState)
    (policy : ActuatorFaultPolicy) (s : System α) : System α :=
  { s with runtime.faultPolicy := policy }.refreshEligibility machines answer

/-- `begin`. -/
def begin (machines : EntryMachines RuntimeState RuntimeEvent) (answer : HealthState)
    (s : System α) : System α :=
  if s.runtime.started then s
  else
    match s.events.subscribe .eventHandler with
    | (events, false) => { s with events }.ran "event_subscribe_failed"
    | (events, true) =>
      let s := { s with events }.entered (machines.runMachine s.runtime.machine)
      { s with runtime.started := true }.refreshEligibility machines answer

/-- `requestEvaluation`. -/
def requestEvaluation (machines : EntryMachines RuntimeState RuntimeEvent) (a : Answers α)
    (reason : String) (s : System α) : System α × Bool :=
  let s := s.refreshEligibility machines a.refreshHealth
  if !s.engine.isEnabled then (s.requested "rule_disabled", false)
  else
    let healthy := s.dependencyHealthy a.health
    if !healthy && s.runtime.faultPolicy == .DisableRule then
      (s.requested "dependency_fault_disable_rule", false)
    else if healthy && (!s.providers.inputReady || !a.inputReady) then
      (s.requested "input_not_ready", false)
    else if s.runtime.state != .Armed then (s.requested "runtime_not_armed", false)
    else if s.runtime.evaluationTask.enabled then
      ({ s with runtime.pending := true }.requested "coalesced", true)
    else if !a.restarts then
      let task := s.runtime.evaluationTask
      ({ s with
        runtime.pending := false
        runtime.evaluationTask := { task with iterations := task.setIterations }
        }.requested "scheduler_rejected", false)
    else
      ({ s with
        runtime.pending := true, runtime.evaluationTask := s.runtime.evaluationTask.restart
        }.requested (if reason.length != 0 then "scheduled:" ++ reason else "scheduled"), true)

/-- `handleEvent`. -/
def handleEvent (machines : EntryMachines RuntimeState RuntimeEvent) (a : Answers α)
    (event : Event) (s : System α) : System α :=
  if s.inputSourceId.length != 0 && cString event.source != cString s.inputSourceId then s
  else if event.type = .InputValueChanged then (s.requestEvaluation machines a "input_event").1
  else if event.type = .ComponentHealthChanged then
    (s.requestEvaluation machines a "dependency_health").1
  else s

/-- `applyDesired_`. -/
def applyDesired (a : Answers α) (desiredOn : Bool) (s : System α) : System α × Bool :=
  ({ s with runtime.applied := s.runtime.applied ++ [(s.runtime.state, desiredOn)] },
    a.applyDesired desiredOn)

/-- What a fault policy does with the output. -/
def actOnPolicy (a : Answers α) (resolution : ActuatorFaultResolution) (s : System α) : System α :=
  let name := actuatorFaultPolicyName s.runtime.faultPolicy
  if resolution.applyDesired then
    match s.applyDesired a resolution.desiredOn with
    | (s, false) => s.ran ("fault_policy_apply_failed:" ++ name)
    | (s, true) => s.ran ("fault_policy:" ++ name)
  else if resolution.alarmOnly then s.ran "fault_policy:ALARM_ONLY"
  else s.ran "fault_policy:KEEP_LAST_STATE"

/-- The branch of a dependency that is not healthy. -/
def runPolicy (machines : EntryMachines RuntimeState RuntimeEvent) (a : Answers α)
    (s : System α) : System α :=
  let resolution := resolveActuatorFaultPolicy s.runtime.faultPolicy a.outputState
  let s := { s with
    runtime.lastPolicyResult := actuatorFaultPolicyName s.runtime.faultPolicy }
  if resolution.suspendRule then
    (s.ran "fault_policy:DISABLE_RULE").refreshEligibility machines a.refreshHealth
  else ((s.drive machines .EventEvaluate).actOnPolicy a resolution).drive machines .EventDone

variable [LT α] [DecidableLT α]

/-- What a rule does with the output. -/
def actOnRule (a : Answers α) (s : System α) : System α :=
  let evaluated := s.engine.evaluate a.inputValue a.outputState s.events
  let s := { s with engine := evaluated.1.1, events := evaluated.1.2 }
  match evaluated.2 with
  | .error error => s.ran (if error.length != 0 then error else "evaluation_failed")
  | .ok (desired, decision) =>
    if decision = .Disabled then s.ran "rule_disabled"
    else
      match s.applyDesired a desired with
      | (s, false) => s.ran "actuator_rejected"
      | (s, true) => s.ran (decisionName s.engine.lastDecision)

/-- The branch of a healthy dependency. -/
def runRule (machines : EntryMachines RuntimeState RuntimeEvent) (a : Answers α) (s : System α) :
    System α :=
  if !s.providers.inputReady || !a.inputReady || !s.providers.inputValue then
    s.ran "runtime_provider_unavailable"
  else
    let s := (s.drive machines .EventEvaluate).actOnRule a
    s.drive machines (if s.engine.isEnabled then .EventDone else .EventDisarm)

/-- `executeEvaluation`, the callback of the task. -/
def executeEvaluation (machines : EntryMachines RuntimeState RuntimeEvent) (a : Answers α)
    (s : System α) : System α :=
  let s := { s with runtime.pending := false }
  if !s.engine.isEnabled then
    (s.ran "rule_disabled").refreshEligibility machines a.refreshHealth
  else if !s.providers.outputState || !s.providers.applyDesired then
    s.ran "runtime_provider_unavailable"
  else if s.dependencyHealth a.health != .Ok then s.runPolicy machines a
  else s.runRule machines a

/-- A pass of the scheduler. -/
def pass (machines : EntryMachines RuntimeState RuntimeEvent) (due : Bool) (a : Answers α)
    (s : System α) : System α :=
  let passed := s.runtime.evaluationTask.pass due
  let s := { s with runtime.evaluationTask := passed.1 }
  if passed.2 then s.executeEvaluation machines a else s

end System

variable [LT α] [DecidableLT α]

/-- A call of the runtime or of its engine, with the answers it meets, or a pass of
the scheduler. -/
inductive Label (α : Type) [Zero α] where
  | begin (answer : HealthState)
  | refreshEligibility (answer : HealthState)
  | setFaultPolicy (answer : HealthState) (policy : ActuatorFaultPolicy)
  | requestEvaluation (a : Answers α) (reason : String)
  | event (a : Answers α) (event : Event)
  | configure (rule : HysteresisRule α)
  | clear
  | pass (due : Bool) (a : Answers α)

/-- One step. -/
def step (machines : EntryMachines RuntimeState RuntimeEvent) (s : System α) :
    Label α → System α
  | .begin answer => s.begin machines answer
  | .refreshEligibility answer => s.refreshEligibility machines answer
  | .setFaultPolicy answer policy => s.setFaultPolicy machines answer policy
  | .requestEvaluation a reason => (s.requestEvaluation machines a reason).1
  | .event a event => s.handleEvent machines a event
  | .configure rule =>
    match s.engine.configure rule with
    | .ok engine => { s with engine }
    | .error _ => s
  | .clear => { s with engine := .clear }
  | .pass due a => s.pass machines due a

/-! ### The machine -/

section Machine

omit [LT α] [DecidableLT α]

variable {machines : EntryMachines RuntimeState RuntimeEvent} {s t : System α}

/-- The machine runs, and its current state is the copy. -/
structure Mirrored (s : System α) : Prop where
  /-- The copy is the state of the machine. -/
  current : s.runtime.machine.current = s.runtime.state
  /-- The machine has run. -/
  running : s.runtime.machine.initialized = true

/-- The transitions lead where those of the machine do. -/
theorem nextState_eq (event : RuntimeEvent) (state : RuntimeState) :
    nextState transitions event state = RuleExecution.next event state := by
  cases event <;> cases state <;> rfl

/-- A running machine that is run again enters no state. -/
theorem entered_again (h : machines.Documented) (hrun : s.runtime.machine.initialized = true) :
    s.entered (machines.runMachine s.runtime.machine) = s := by
  rw [h.again _ hrun]
  rfl

/-- A machine that runs is driven to the next state, and the copy with it. -/
theorem drive_spec (h : machines.Documented) (hs : Mirrored s) (event : RuntimeEvent) :
    s.drive machines event =
      { s with runtime := { s.runtime with
        machine := { s.runtime.machine with current := RuleExecution.next event s.runtime.state }
        state := RuleExecution.next event s.runtime.state } } := by
  have htriggered : s.entered (machines.trigger transitions event s.runtime.machine) =
      { s with runtime := { s.runtime with
        machine := { s.runtime.machine with current := RuleExecution.next event s.runtime.state }
        state := RuleExecution.next event s.runtime.state } } := by
    rw [trigger_spec h hs.running, hs.current, nextState_eq]
    cases hfirst : firstTransition transitions event s.runtime.state with
    | some transition => rfl
    | none =>
      have hsame : RuleExecution.next event s.runtime.state = s.runtime.state := by
        rw [← nextState_eq, nextState, hfirst]
        rfl
      rw [hsame]
      rfl
  unfold System.drive
  rw [htriggered]
  exact entered_again h hs.running

/-- What holds of the runtime between any two of its calls. -/
structure Agreed (s : System α) : Prop where
  /-- The copy is the state of the machine. -/
  current : s.runtime.machine.current = s.runtime.state
  /-- The machine has run exactly when the runtime is started. -/
  initialized : s.runtime.machine.initialized = s.runtime.started
  /-- The runtime is not in the middle of an evaluation. -/
  resting : s.runtime.state = .Disabled ∨ s.runtime.state = .Armed
  /-- Before `begin` it is disabled. -/
  waiting : s.runtime.started = false → s.runtime.state = .Disabled
  /-- The task is enabled only while the runtime is armed. -/
  armed : s.runtime.evaluationTask.enabled = true → s.runtime.state = .Armed
  /-- The output was applied only while a rule was evaluated. -/
  applied : ∀ call ∈ s.runtime.applied, call.1 = .Evaluating

/-- The results have no part in it. -/
theorem Agreed.requested (h : Agreed s) (result : String) : Agreed (s.requested result) :=
  { h with }

/-- The result of a run is not looked at. -/
theorem Agreed.ran (h : Agreed s) (result : String) : Agreed (s.ran result) :=
  { h with }

/-- An armed runtime has been started. -/
theorem Agreed.started_of_armed (h : Agreed s) (harmed : s.runtime.state = .Armed) :
    s.runtime.started = true := by
  by_contra hnot
  have hdisabled := h.waiting (by simpa using hnot)
  rw [harmed] at hdisabled
  cases hdisabled

/-- A started runtime shows the state of its machine. -/
theorem Agreed.mirrored (h : Agreed s) (hstarted : s.runtime.started = true) : Mirrored s :=
  ⟨h.current, h.initialized.trans hstarted⟩

/-- The rule is enabled, and its dependency does not suspend it. -/
def eligible (answer : HealthState) (s : System α) : Bool :=
  s.engine.isEnabled && !s.dependencySuspends answer

/-- Once started, the runtime is armed exactly when its rule is enabled and the
policy does not disable it for the health that was answered. -/
def ArmedExactly (answer : HealthState) (s : System α) : Prop :=
  s.runtime.started = true → (s.runtime.state = .Armed ↔ s.engine.isEnabled = true ∧
    ¬(s.runtime.faultPolicy = .DisableRule ∧ s.dependencyHealth answer ≠ .Ok))

/-- The rule is eligible while it is enabled and its policy does not disable it for a
dependency. -/
theorem eligible_iff (answer : HealthState) (s : System α) :
    eligible answer s = true ↔ s.engine.isEnabled = true ∧
      ¬(s.runtime.faultPolicy = .DisableRule ∧ s.dependencyHealth answer ≠ .Ok) := by
  simp [eligible, System.dependencySuspends, System.dependencyHealthy, imp_iff_not_or]

/-- Two systems that differ in nothing that a refresh decides. -/
structure Settled (s t : System α) : Prop where
  /-- The functions are the same. -/
  providers : t.providers = s.providers
  /-- And so is the engine. -/
  engine : t.engine = s.engine
  /-- The runtime is started or not, as before. -/
  started : t.runtime.started = s.runtime.started
  /-- The policy is the same. -/
  faultPolicy : t.runtime.faultPolicy = s.runtime.faultPolicy

/-- Systems that a refresh does not tell apart are equally eligible. -/
theorem Settled.eligible (h : Settled s t) (answer : HealthState) :
    eligible answer t = eligible answer s := by
  simp only [ProvidedRuntime.eligible, System.dependencySuspends, System.dependencyHealthy,
    System.dependencyHealth, h.providers, h.engine, h.faultPolicy]

/-- What `refreshEligibility` leaves of a runtime that is started. -/
structure Refreshed (answer : HealthState) (s t : System α) : Prop where
  /-- The runtime is at rest. -/
  agreed : Agreed t
  /-- It is armed exactly when its rule may run. -/
  armed : t.runtime.state = .Armed ↔ eligible answer s = true
  /-- Nothing else has been decided. -/
  settled : Settled s t

/-- A disabled task is not enabled. -/
theorem disabled_task (task : Task) :
    (if task.enabled then task.disable else task).enabled = false := by
  cases henabled : task.enabled with
  | false => exact henabled
  | true => rfl

/-- A rule that is not eligible disarms the runtime and its task. -/
theorem refresh_ineligible (h : machines.Documented) {answer : HealthState} (hs : Agreed s)
    (hstarted : s.runtime.started = true) (he : eligible answer s = false) :
    Refreshed answer s (s.refreshEligibility machines answer) := by
  have hbranch : (!s.engine.isEnabled || s.dependencySuspends answer) = true := by
    cases henabled : s.engine.isEnabled <;> simp_all [eligible]
  unfold System.refreshEligibility
  rw [if_neg (by simp [hstarted]), if_pos hbranch]
  dsimp only
  have hmirrored : Mirrored { s with
      runtime.pending := false
      runtime.evaluationTask := if s.runtime.evaluationTask.enabled
        then s.runtime.evaluationTask.disable else s.runtime.evaluationTask } :=
    ⟨hs.current, hs.initialized.trans hstarted⟩
  rcases hs.resting with hdisabled | harmed
  · have hstays : (s.runtime.state != .Disabled) = false := by simp [hdisabled]
    simp only [hstays, Bool.false_eq_true, if_false]
    refine ⟨?_, ?_, ⟨rfl, rfl, rfl, rfl⟩⟩
    · apply Agreed.requested
      refine ⟨hs.current, hs.initialized, .inl hdisabled, hs.waiting, ?_, hs.applied⟩
      intro henabled
      rw [disabled_task] at henabled
      cases henabled
    · simp [System.requested, hdisabled, he]
  · have hleaves : (s.runtime.state != .Disabled) = true := by simp [harmed]
    have hnext : RuleExecution.next .EventDisarm s.runtime.state = .Disabled := by
      rw [harmed]
      rfl
    simp only [hleaves, if_true]
    rw [drive_spec h hmirrored]
    dsimp only
    rw [hnext]
    refine ⟨?_, ?_, ⟨rfl, rfl, rfl, rfl⟩⟩
    · apply Agreed.requested
      refine ⟨rfl, hs.initialized, .inl rfl, fun _ => rfl, ?_, hs.applied⟩
      intro henabled
      rw [disabled_task] at henabled
      cases henabled
    · simp [System.requested, he]

/-- An eligible rule arms the runtime. -/
theorem refresh_eligible (h : machines.Documented) {answer : HealthState} (hs : Agreed s)
    (hstarted : s.runtime.started = true) (he : eligible answer s = true) :
    Refreshed answer s (s.refreshEligibility machines answer) := by
  have hbranch : (!s.engine.isEnabled || s.dependencySuspends answer) = false := by
    simpa [eligible, Bool.and_eq_true] using he
  unfold System.refreshEligibility
  rw [if_neg (by simp [hstarted]), if_neg (by simp [hbranch])]
  rcases hs.resting with hdisabled | harmed
  · rw [if_pos (by simp [hdisabled]), drive_spec h (hs.mirrored hstarted)]
    have hnext : RuleExecution.next .EventArm s.runtime.state = .Armed := by
      rw [hdisabled]
      rfl
    rw [hnext]
    have hwaiting : s.runtime.started = false → RuntimeState.Armed = .Disabled :=
      fun hnot => absurd hstarted (by simp [hnot])
    exact ⟨⟨rfl, hs.initialized, .inr rfl, hwaiting, fun _ => rfl, hs.applied⟩, by simp [he],
      ⟨rfl, rfl, rfl, rfl⟩⟩
  · rw [if_neg (by simp [harmed])]
    exact ⟨hs, by simp [harmed, he], ⟨rfl, rfl, rfl, rfl⟩⟩

/-- What a refresh does. -/
theorem refresh_spec (h : machines.Documented) (answer : HealthState) (hs : Agreed s)
    (hstarted : s.runtime.started = true) :
    Refreshed answer s (s.refreshEligibility machines answer) := by
  cases he : eligible answer s with
  | true => exact refresh_eligible h hs hstarted he
  | false => exact refresh_ineligible h hs hstarted he

/-- Started or not, a refresh keeps what holds. -/
theorem refresh_agreed (h : machines.Documented) (answer : HealthState) (hs : Agreed s) :
    Agreed (s.refreshEligibility machines answer) := by
  cases hstarted : s.runtime.started with
  | true => exact (refresh_spec h answer hs hstarted).agreed
  | false =>
    unfold System.refreshEligibility
    rw [if_pos (by simp [hstarted])]
    exact hs

/-- A refresh starts nothing. -/
theorem refresh_waiting {answer : HealthState} (hwaiting : s.runtime.started = false) :
    s.refreshEligibility machines answer = s := by
  unfold System.refreshEligibility
  rw [if_pos (by simp [hwaiting])]

/-- The decision of a refresh stands right after it. -/
theorem refresh_exact (h : machines.Documented) (answer : HealthState) (hs : Agreed s) :
    ArmedExactly answer (s.refreshEligibility machines answer) := by
  intro hstarted
  have hbefore : s.runtime.started = true := by
    by_contra hnot
    rw [refresh_waiting (by simpa using hnot)] at hstarted
    exact hnot hstarted
  have hrefreshed := refresh_spec h answer hs hbefore
  rw [hrefreshed.armed, ← hrefreshed.settled.eligible answer]
  exact eligible_iff answer _

/-- A request decides nothing that the refresh did not. -/
theorem request_settled (machines : EntryMachines RuntimeState RuntimeEvent) (a : Answers α)
    (reason : String) (s : System α) :
    Settled (s.refreshEligibility machines a.refreshHealth)
        (s.requestEvaluation machines a reason).1 ∧
      (s.requestEvaluation machines a reason).1.runtime.state =
        (s.refreshEligibility machines a.refreshHealth).runtime.state := by
  unfold System.requestEvaluation
  generalize s.refreshEligibility machines a.refreshHealth = t
  dsimp only
  repeat' split
  all_goals exact ⟨⟨rfl, rfl, rfl, rfl⟩, rfl⟩

/-- After a request the task is armed exactly when the rule is eligible. -/
theorem request_exact (h : machines.Documented) (a : Answers α) (reason : String)
    (hs : Agreed s) : ArmedExactly a.refreshHealth (s.requestEvaluation machines a reason).1 := by
  obtain ⟨hsettled, hstate⟩ := request_settled machines a reason s
  intro hstarted
  have hexact := refresh_exact h a.refreshHealth hs (hsettled.started ▸ hstarted)
  rw [hstate, hexact, ← eligible_iff, ← eligible_iff, hsettled.eligible]

/-- A request schedules the task of a runtime that is armed only. -/
theorem request_agreed (h : machines.Documented) (a : Answers α) (reason : String)
    (hs : Agreed s) : Agreed (s.requestEvaluation machines a reason).1 := by
  have hrefreshed := refresh_agreed h a.refreshHealth hs
  unfold System.requestEvaluation
  generalize s.refreshEligibility machines a.refreshHealth = t at hrefreshed
  dsimp only
  split
  · exact hrefreshed.requested _
  split
  · exact hrefreshed.requested _
  split
  · exact hrefreshed.requested _
  split
  · exact hrefreshed.requested _
  rename_i hnot
  have harmed : t.runtime.state = .Armed := by simpa using hnot
  split
  · apply Agreed.requested
    exact { hrefreshed with }
  split
  · apply Agreed.requested
    exact { hrefreshed with }
  · apply Agreed.requested
    exact { hrefreshed with armed := fun _ => harmed }

/-- The first run of the machine enters the state that the copy has already; without
a place on the bus nothing is started. -/
theorem begin_cases (h : machines.Documented) (answer : HealthState) (hs : Agreed s)
    (hwaiting : s.runtime.started = false) :
    (Agreed (s.begin machines answer) ∧ (s.begin machines answer).runtime.started = false) ∨
      ∃ t, Agreed t ∧ s.begin machines answer = t.refreshEligibility machines answer := by
  unfold System.begin
  rw [if_neg (by simp [hwaiting])]
  split
  · exact .inl ⟨{ hs with }, hwaiting⟩
  · rw [h.first _ (hs.initialized.trans hwaiting)]
    have hstate : s.runtime.machine.current = .Disabled := hs.current.trans (hs.waiting hwaiting)
    refine .inr ⟨_, ?_, rfl⟩
    refine ⟨rfl, rfl, .inl hstate, fun _ => hstate, ?_, hs.applied⟩
    intro henabled
    exact hs.current.trans (hs.armed henabled)

/-- The start keeps the agreement. -/
theorem begin_agreed (h : machines.Documented) (answer : HealthState) (hs : Agreed s) :
    Agreed (s.begin machines answer) := by
  cases hstarted : s.runtime.started with
  | true =>
    unfold System.begin
    rw [if_pos hstarted]
    exact hs
  | false =>
    rcases begin_cases h answer hs hstarted with hfailed | ⟨t, ht, heq⟩
    · exact hfailed.1
    · rw [heq]
      exact refresh_agreed h answer ht

/-- After the start the task is armed exactly when the rule is eligible. -/
theorem begin_exact (h : machines.Documented) (answer : HealthState) (hs : Agreed s)
    (hwaiting : s.runtime.started = false) : ArmedExactly answer (s.begin machines answer) := by
  rcases begin_cases h answer hs hwaiting with hfailed | ⟨t, ht, heq⟩
  · intro hstarted
    exact absurd hstarted (Bool.eq_false_iff.mp hfailed.2)
  · rw [heq]
    exact refresh_exact h answer ht

/-- An event keeps the agreement. -/
theorem handleEvent_agreed (h : machines.Documented) (a : Answers α) (event : Event)
    (hs : Agreed s) : Agreed (s.handleEvent machines a event) := by
  unfold System.handleEvent
  split
  · exact hs
  split
  · exact request_agreed h a _ hs
  split
  · exact request_agreed h a _ hs
  · exact hs

/-- The engine alone changes. -/
theorem Agreed.engine (hs : Agreed s) (engine : RuleEngine α) : Agreed { s with engine } :=
  { hs with }

/-- A change of the fault policy keeps the agreement. -/
theorem setFaultPolicy_agreed (h : machines.Documented) (answer : HealthState)
    (policy : ActuatorFaultPolicy) (hs : Agreed s) :
    Agreed (s.setFaultPolicy machines answer policy) :=
  refresh_agreed h answer { hs with }

/-! ### Evaluations -/

/-- What a run does with the output, in one state. -/
structure Acted (s t : System α) : Prop where
  /-- The machine stays where it is. -/
  machine : t.runtime.machine = s.runtime.machine
  /-- So does the task. -/
  task : t.runtime.evaluationTask = s.runtime.evaluationTask
  /-- So does the copy. -/
  state : t.runtime.state = s.runtime.state
  /-- The runtime stays started, or not. -/
  started : t.runtime.started = s.runtime.started
  /-- The rule stays enabled, or not. -/
  enabled : t.engine.isEnabled = s.engine.isEnabled
  /-- What is applied is applied in this state. -/
  applied : ∀ call ∈ t.runtime.applied, call ∈ s.runtime.applied ∨ call.1 = s.runtime.state

/-- Recording the result asks for nothing. -/
theorem Acted.ran (h : Acted s t) (result : String) : Acted s (t.ran result) :=
  { h with }

/-- Doing nothing asks for nothing. -/
theorem Acted.refl (s : System α) : Acted s s :=
  ⟨rfl, rfl, rfl, rfl, rfl, fun _ hcall => .inl hcall⟩

/-- The output is applied in the state that the runtime is in. -/
theorem Acted.applyDesired (h : Acted s t) (a : Answers α) (desiredOn : Bool) :
    Acted s (t.applyDesired a desiredOn).1 := by
  refine ⟨h.machine, h.task, h.state, h.started, h.enabled, ?_⟩
  intro call hcall
  rcases List.mem_append.mp hcall with hold | hnew
  · exact h.applied call hold
  · rw [List.mem_singleton.mp hnew]
    exact .inr h.state

/-- The policy asks for the output alone. -/
theorem actOnPolicy_acted (a : Answers α) (resolution : ActuatorFaultResolution)
    (s : System α) : Acted s (s.actOnPolicy a resolution) := by
  have happlied := (Acted.refl s).applyDesired a resolution.desiredOn
  unfold System.actOnPolicy
  dsimp only
  split
  · revert happlied
    match s.applyDesired a resolution.desiredOn with
    | (u, false) => exact fun happlied => happlied.ran _
    | (u, true) => exact fun happlied => happlied.ran _
  split
  · exact (Acted.refl s).ran _
  · exact (Acted.refl s).ran _

/-- From an armed runtime to an armed runtime, with the output acted on between. -/
theorem cycle_agreed (h : machines.Documented) (hs : Agreed s)
    (hstarted : s.runtime.started = true) (harmed : s.runtime.state = .Armed)
    (hacted : Acted (s.drive machines .EventEvaluate) t) :
    Agreed (t.drive machines .EventDone) := by
  rw [drive_spec h (hs.mirrored hstarted)] at hacted
  have hnext : RuleExecution.next .EventEvaluate s.runtime.state = .Evaluating := by
    rw [harmed]
    rfl
  have hstate : t.runtime.state = .Evaluating := hacted.state.trans hnext
  have hcurrent : t.runtime.machine.current = .Evaluating := by
    rw [hacted.machine]
    exact hnext
  have hinitialized : t.runtime.machine.initialized = true := by
    rw [hacted.machine]
    exact hs.initialized.trans hstarted
  have hdone : RuleExecution.next .EventDone t.runtime.state = .Armed := by
    rw [hstate]
    rfl
  have hrunning : t.runtime.started = true := hacted.started.trans hstarted
  rw [drive_spec h ⟨hcurrent.trans hstate.symm, hinitialized⟩, hdone]
  refine ⟨rfl, hinitialized.trans hrunning.symm, .inr rfl, ?_, fun _ => rfl, ?_⟩
  · intro hwaiting
    exact absurd hrunning (Bool.eq_false_iff.mp hwaiting)
  · intro call hcall
    rcases hacted.applied call hcall with hold | hnew
    · exact hs.applied call hold
    · exact hnew.trans hnext

/-- A policy that does not suspend the rule ends armed. -/
theorem runPolicy_agreed (h : machines.Documented) (a : Answers α) (hs : Agreed s)
    (hstarted : s.runtime.started = true) (harmed : s.runtime.state = .Armed) :
    Agreed (s.runPolicy machines a) := by
  have hnamed : Agreed { s with
      runtime.lastPolicyResult := actuatorFaultPolicyName s.runtime.faultPolicy } := { hs with }
  unfold System.runPolicy
  dsimp only
  split
  · exact refresh_agreed h _ (hnamed.ran _)
  · exact cycle_agreed h hnamed hstarted harmed (actOnPolicy_acted a _ _)

end Machine

/-! ### Evaluations of the rule -/

variable {machines : EntryMachines RuntimeState RuntimeEvent} {s : System α}

/-- The rule asks for the output alone. -/
theorem actOnRule_acted (a : Answers α) (s : System α) : Acted s (s.actOnRule a) := by
  have hrule := s.engine.evaluate_rule a.inputValue a.outputState s.events
  have hevaluated : Acted s { s with
      engine := (s.engine.evaluate a.inputValue a.outputState s.events).1.1
      events := (s.engine.evaluate a.inputValue a.outputState s.events).1.2 } := by
    refine ⟨rfl, rfl, rfl, rfl, ?_, fun _ hcall => .inl hcall⟩
    simp only [RuleEngine.isEnabled, hrule.1, hrule.2]
  unfold System.actOnRule
  dsimp only
  split
  · exact hevaluated.ran _
  · rename_i desired decision _
    split
    · exact hevaluated.ran _
    · have happlied := hevaluated.applyDesired a desired
      split
      · rename_i heq
        rw [heq] at happlied
        exact happlied.ran _
      · rename_i heq
        rw [heq] at happlied
        exact happlied.ran _

/-- The engine is still enabled after an evaluation, and the runtime armed. -/
theorem runRule_agreed (h : machines.Documented) (a : Answers α) (hs : Agreed s)
    (hstarted : s.runtime.started = true) (harmed : s.runtime.state = .Armed)
    (henabled : s.engine.isEnabled = true) : Agreed (s.runRule machines a) := by
  have hacted := actOnRule_acted a (s.drive machines .EventEvaluate)
  have hstill : ((s.drive machines .EventEvaluate).actOnRule a).engine.isEnabled = true := by
    rw [hacted.enabled, drive_spec h (hs.mirrored hstarted)]
    exact henabled
  unfold System.runRule
  dsimp only
  split
  · exact hs.ran _
  · exact cycle_agreed h hs hstarted harmed hacted

/-- Whatever exit it takes, an evaluation of an armed runtime leaves it at rest. -/
theorem executeEvaluation_agreed (h : machines.Documented) (a : Answers α) (hs : Agreed s)
    (harmed : s.runtime.state = .Armed) : Agreed (s.executeEvaluation machines a) := by
  have hstarted := hs.started_of_armed harmed
  have hcleared : Agreed { s with runtime.pending := false } := { hs with }
  unfold System.executeEvaluation
  dsimp only
  split
  · exact refresh_agreed h _ (hcleared.ran _)
  rename_i hnot
  have henabled : s.engine.isEnabled = true := by simpa using hnot
  split
  · exact hcleared.ran _
  split
  · exact runPolicy_agreed h a hcleared hstarted harmed
  · exact runRule_agreed h a hcleared hstarted harmed henabled

/-- A pass enables no task, and runs the callback of an enabled one only. -/
theorem pass_enabled (due : Bool) (task : Task) :
    ((task.pass due).1.enabled = true → task.enabled = true) ∧
      ((task.pass due).2 = true → task.enabled = true) := by
  cases henabled : task.enabled with
  | true => exact ⟨fun _ => rfl, fun _ => rfl⟩
  | false =>
    rw [Task.pass_of_disabled henabled]
    exact ⟨fun h => absurd h (by simp [henabled]), fun h => absurd h (by simp)⟩

/-- A pass of the scheduler keeps the agreement. -/
theorem pass_agreed (h : machines.Documented) (due : Bool) (a : Answers α) (hs : Agreed s) :
    Agreed (s.pass machines due a) := by
  have hpass := pass_enabled due s.runtime.evaluationTask
  have hpassed : Agreed { s with
      runtime.evaluationTask := (s.runtime.evaluationTask.pass due).1 } :=
    { hs with armed := fun he => hs.armed (hpass.1 he) }
  unfold System.pass
  dsimp only
  split
  · rename_i hrun
    exact executeEvaluation_agreed h a hpassed (hs.armed (hpass.2 hrun))
  · exact hpassed

/-- One step keeps what holds. -/
theorem step_agreed (h : machines.Documented) (s : System α) (label : Label α) (hs : Agreed s) :
    Agreed (step machines s label) := by
  cases label with
  | begin answer => exact begin_agreed h answer hs
  | refreshEligibility answer => exact refresh_agreed h answer hs
  | setFaultPolicy answer policy => exact setFaultPolicy_agreed h answer policy hs
  | requestEvaluation a reason => exact request_agreed h a reason hs
  | event a event => exact handleEvent_agreed h a event hs
  | configure rule =>
    unfold step
    dsimp only
    split
    · exact hs.engine _
    · exact hs
  | clear => exact hs.engine _
  | pass due a => exact pass_agreed h due a hs

/-- In every run, with whatever providers and answers, the runtime is at rest in the
state of its machine, its task waits only while it is armed, the output is applied
only while it evaluates, and each refresh arms it exactly when its rule may run. -/
theorem provided_run (h : machines.Documented) (providers : Providers) (inputSourceId : String)
    (events : EventBus Handler) (engine : RuleEngine α) (labels : List (Label α)) :
    let s := run (step machines) { providers, inputSourceId, events, engine } labels
    (s.runtime.state = .Disabled ∨ s.runtime.state = .Armed) ∧
      s.runtime.machine.current = s.runtime.state ∧
      (s.runtime.evaluationTask.ready = true →
        s.runtime.started = true ∧ s.runtime.state = .Armed) ∧
      (∀ call ∈ s.runtime.applied, call.1 = .Evaluating) ∧
      (∀ answer, ArmedExactly answer (s.refreshEligibility machines answer)) ∧
      (s.runtime.started = false → ∀ answer, ArmedExactly answer (s.begin machines answer)) ∧
      (∀ answer policy, ArmedExactly answer (s.setFaultPolicy machines answer policy)) ∧
      (∀ a reason, ArmedExactly a.refreshHealth (s.requestEvaluation machines a reason).1) := by
  intro s
  have hfresh : Agreed ({ providers, inputSourceId, events, engine } : System α) :=
    ⟨rfl, rfl, .inl rfl, fun _ => rfl, Bool.noConfusion, by simp⟩
  have hs : Agreed s := run_invariant (step_agreed h) hfresh labels
  refine ⟨hs.resting, hs.current, ?_, hs.applied, ?_, ?_, ?_, ?_⟩
  · intro hready
    have harmed := hs.armed (Bool.and_eq_true_iff.mp hready).1
    exact ⟨hs.started_of_armed harmed, harmed⟩
  · intro answer
    exact refresh_exact h answer hs
  · intro hwaiting answer
    exact begin_exact h answer hs hwaiting
  · intro answer policy
    have hpolicy : Agreed { s with runtime.faultPolicy := policy } := { hs with }
    exact refresh_exact h answer hpolicy
  · intro a reason
    exact request_exact h a reason hs

/-- A rule that is configured and then cleared while its task waits. -/
theorem provided_sample :
    let s : System ℕ := run (step sampleEntryMachines) {}
      [.configure ⟨"cooling", true, .finite 1, .finite 3⟩, .begin .Ok,
        .requestEvaluation {} "", .clear]
    s.runtime.evaluationTask.ready = true ∧ s.runtime.started = true ∧ s.runtime.state = .Armed :=
  have h := provided_run sampleEntryMachines_documented {} "" {} ({} : RuleEngine ℕ)
    [.configure ⟨"cooling", true, .finite 1, .finite 3⟩, .begin .Ok,
      .requestEvaluation {} "", .clear]
  ⟨by decide, h.2.2.1 (by decide)⟩

end ProjEsp32.ProvidedRuntime
