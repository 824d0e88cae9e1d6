import ProjEsp32.CooperativeTask
import ProjEsp32.MachineLibrary
import ProjEsp32.RuleEvaluation
import ProjEsp32.VirtualComponents

/-!
# The rule runtime

The runtime evaluates the rule in a one-shot task. A request enables the task,
or is coalesced when the task is enabled already; a rule that is not eligible
disarms the runtime and its task.
-/

namespace ProjEsp32.RuleExecution

open ArduinoJson CooperativeTask MachineLibrary RuleEvaluation RuntimeCore VirtualComponents

variable {α : Type} [Zero α]

/-- The functions that subscribe to the bus. -/
inductive Handler where
  | handleRuntimeEvent
  | eventHandler
  deriving DecidableEq

/-- The states of the runtime. -/
inductive RuntimeState where
  | Disabled
  | Armed
  | Evaluating
  deriving DecidableEq

/-- The events of its machine. -/
inductive RuntimeEvent where
  | EventArm
  | EventDisarm
  | EventEvaluate
  | EventDone
  deriving DecidableEq

/-- `configureTransitions`. -/
def transitions : List (Transition RuntimeState RuntimeEvent) :=
  [⟨.Disabled, .Armed, .EventArm⟩, ⟨.Armed, .Disabled, .EventDisarm⟩,
    ⟨.Armed, .Evaluating, .EventEvaluate⟩, ⟨.Evaluating, .Armed, .EventDone⟩,
    ⟨.Evaluating, .Disabled, .EventDisarm⟩]

/-- What the runtime does with the requests that it accepts. -/
inductive Note where
  /-- `requestEvaluation` returned true. -/
  | accepted
  /-- `executeEvaluation` started. -/
  | executed
  /-- `refreshEligibility` disarmed. -/
  | disarmed
  deriving DecidableEq

/-- The variables of the runtime. The state machine is in `state_`: the function
that a state runs on entry writes it. -/
structure RuleRuntime where
  /-- `TASK_IMMEDIATE`, `TASK_ONCE`, not enabled. -/
  evaluationTask : Task := { interval := 0, setIterations := some 1, iterations := some 1 }
  /-- The state of the machine. -/
  state : RuntimeState := .Disabled
  /-- What is done while the input is not healthy. -/
  faultPolicy : ActuatorFaultPolicy := .SafeOff
  /-- `begin` has been called. -/
  started : Bool := false
  /-- An evaluation is waited for. -/
  pending : Bool := false
  /-- What became of the last request. -/
  lastRequestResult : String := "never"
  /-- What became of the last run. -/
  lastRunResult : String := "never"
  /-- The policy that was taken up last. -/
  lastPolicyResult : String := "never"
  /-- The notes so far; nothing reads them. -/
  notes : List Note := []
  deriving DecidableEq

/-- The runtime with what main wires it to. -/
structure System (α : Type) [Zero α] where
  /-- The bus. -/
  events : EventBus Handler := {}
  /-- The rule engine. -/
  engine : RuleEngine α := {}
  /-- The input that the rule depends on. -/
  temperature : VirtualInput α := {}
  /-- The output that it acts on. -/
  heater : VirtualActuator := {}
  /-- The runtime. -/
  runtime : RuleRuntime := {}

/-- The events of the input that ask for an evaluation. -/
def evaluationReason (event : Event) : Option String :=
  if event.source != TEMPERATURE_ID then none
  else match event.type with
    | .InputValueChanged => some "input_event"
    | .ComponentHealthChanged => some "dependency_health"
    | _ => none

namespace System

/-- `dependencyHealthy`. -/
def dependencyHealthy (s : System α) : Bool := s.temperature.health == .Ok

/-- `trigger`, and the entry into the state that it leads to. -/
def trigger (machines : Machines RuntimeState RuntimeEvent) (event : RuntimeEvent)
    (s : System α) : System α :=
  { s with runtime.state := machines.trigger transitions event s.runtime.state }

/-- A result of the last run. -/
def ran (result : String) (s : System α) : System α :=
  { s with runtime.lastRunResult := result }

/-- `ruleApplyDesired`: the desired state goes to the heater. -/
def ruleApplyDesired (desiredOn : Bool) (s : System α) : System α × Bool :=
  let applied := s.heater.applyDesired HEATER_ID desiredOn s.events
  ({ s with heater := applied.1.1, events := applied.1.2 }, applied.2)

/-- The health of the input suspends the rule. -/
def dependencySuspends (s : System α) : Bool :=
  s.runtime.faultPolicy == .DisableRule && !s.dependencyHealthy

/-- `refreshEligibility`: arm, or disarm and drop what is pending. -/
def refreshEligibility (machines : Machines RuntimeState RuntimeEvent) (s : System α) : System α :=
  if !s.runtime.started then s
  else if !s.engine.isEnabled || s.dependencySuspends then
    let task := s.runtime.evaluationTask
    let s := { s with
      runtime.pending := false
      runtime.evaluationTask := if task.enabled then task.disable else task
      runtime.notes := s.runtime.notes ++ [Note.disarmed] }
    let s := if s.runtime.state != .Disabled then s.trigger machines .EventDisarm else s
    { s with runtime.lastRequestResult :=
      if s.dependencySuspends then "dependency_fault_disable_rule"
      else if !s.engine.configured then "no_active_rule"
      else "rule_disabled" }
  else if s.runtime.state == .Disabled then s.trigger machines .EventArm
  else s

/-- A request is turned down. -/
def rejected (result : String) (s : System α) : System α × Bool :=
  ({ s with runtime.lastRequestResult := result }, false)

/-- A request is accepted: it is pending. -/
def accepted (task : Task) (result : String) (s : System α) : System α × Bool :=
  ({ s with
      runtime.pending := true
      runtime.evaluationTask := task
      runtime.lastRequestResult := result
      runtime.notes := s.runtime.notes ++ [Note.accepted] }, true)

/-- `requestEvaluation`. The restart of a task that belongs to a scheduler does
not fail. -/
def requestEvaluation (machines : Machines RuntimeState RuntimeEvent) (reason : String)
    (s : System α) : System α × Bool :=
  let s := s.refreshEligibility machines
  if !s.engine.isEnabled then s.rejected "rule_disabled"
  else if !s.dependencyHealthy && s.runtime.faultPolicy == .DisableRule then
    s.rejected "dependency_fault_disable_rule"
  else if s.dependencyHealthy && !s.temperature.hasValue then s.rejected "input_not_ready"
  else if s.runtime.state != .Armed then s.rejected "runtime_not_armed"
  else if s.runtime.evaluationTask.enabled then
    s.accepted s.runtime.evaluationTask "coalesced"
  else
    s.accepted s.runtime.evaluationTask.restart
      (if reason.length != 0 then "scheduled:" ++ reason else "scheduled")

/-- `setFaultPolicy`. -/
def setFaultPolicy (machines : Machines RuntimeState RuntimeEvent) (policy : ActuatorFaultPolicy)
    (s : System α) : System α :=
  { s with runtime.faultPolicy := policy }.refreshEligibility machines

/-- `begin`. -/
def begin (machines : Machines RuntimeState RuntimeEvent) (s : System α) : System α :=
  if s.runtime.started then s
  else
    match s.events.subscribe .eventHandler with
    | (events, false) => { s with events, runtime.lastRunResult := "event_subscribe_failed" }
    | (events, true) => { s with events, runtime.started := true }.refreshEligibility machines

/-- `handleEvent`. -/
def handleEvent (machines : Machines RuntimeState RuntimeEvent) (event : Event) (s : System α) :
    System α :=
  match evaluationReason event with
  | some reason => (s.requestEvaluation machines reason).1
  | none => s

/-- What a fault policy does with the output. -/
def actOnPolicy (resolution : ActuatorFaultResolution) (s : System α) : System α :=
  let name := actuatorFaultPolicyName s.runtime.faultPolicy
  if resolution.applyDesired then
    match s.ruleApplyDesired resolution.desiredOn with
    | (s, false) => s.ran ("fault_policy_apply_failed:" ++ name)
    | (s, true) => s.ran ("fault_policy:" ++ name)
  else if resolution.alarmOnly then s.ran "fault_policy:ALARM_ONLY"
  else s.ran "fault_policy:KEEP_LAST_STATE"

/-- A run while the input is not healthy, once the policy does not suspend the rule. -/
def runPolicy (machines : Machines RuntimeState RuntimeEvent)
    (resolution : ActuatorFaultResolution) (s : System α) : System α :=
  ((s.trigger machines .EventEvaluate).actOnPolicy resolution).trigger machines .EventDone

variable [LT α] [DecidableLT α]

/-- What a rule does with the output. -/
def actOnRule (s : System α) : System α :=
  let evaluated := s.engine.evaluate s.temperature.value s.heater.isOn s.events
  let s := { s with engine := evaluated.1.1, events := evaluated.1.2 }
  match evaluated.2 with
  | .error error => s.ran (if error.length != 0 then error else "evaluation_failed")
  | .ok (desired, decision) =>
    if decision = .Disabled then s.ran "rule_disabled"
    else
      match s.ruleApplyDesired desired with
      | (s, false) => s.ran "actuator_rejected"
      | (s, true) => s.ran (decisionName s.engine.lastDecision)

/-- A run with a healthy input. -/
def runRule (machines : Machines RuntimeState RuntimeEvent) (s : System α) : System α :=
  let s := (s.trigger machines .EventEvaluate).actOnRule
  s.trigger machines (if s.engine.isEnabled then .EventDone else .EventDisarm)

/-- `executeEvaluation`, the callback of the task. -/
def executeEvaluation (machines : Machines RuntimeState RuntimeEvent) (s : System α) : System α :=
  let s := { s with runtime.pending := false, runtime.notes := s.runtime.notes ++ [Note.executed] }
  if !s.engine.isEnabled then (s.ran "rule_disabled").refreshEligibility machines
  else if !s.dependencyHealthy then
    let resolution := resolveActuatorFaultPolicy s.runtime.faultPolicy s.heater.isOn
    let s := { s with
      runtime.lastPolicyResult := actuatorFaultPolicyName s.runtime.faultPolicy }
    if resolution.suspendRule then
      (s.ran "fault_policy:DISABLE_RULE").refreshEligibility machines
    else s.runPolicy machines resolution
  else if !s.temperature.hasValue then s.ran "runtime_provider_unavailable"
  else s.runRule machines

end System

/-! ### Who is eligible, and whose requests are accepted -/

variable {machines : Machines RuntimeState RuntimeEvent} {s t : System α}

namespace System

/-- The rule is enabled and not suspended. -/
def eligible (s : System α) : Bool := s.engine.isEnabled && !s.dependencySuspends

/-- A request is accepted: the rule is eligible, and a healthy input has a value. -/
def accepts (s : System α) : Bool :=
  s.eligible && (!s.dependencyHealthy || s.temperature.hasValue)

end System

/-- The state after a trigger. -/
def next : RuntimeEvent → RuntimeState → RuntimeState
  | .EventArm, .Disabled => .Armed
  | .EventDisarm, .Armed => .Disabled
  | .EventEvaluate, .Armed => .Evaluating
  | .EventDone, .Evaluating => .Armed
  | .EventDisarm, .Evaluating => .Disabled
  | _, state => state

/-- A triggered event leads to the next state. -/
theorem trigger_eq (hmachines : machines.Takes) (event : RuntimeEvent) (state : RuntimeState) :
    machines.trigger transitions event state = next event state := by
  cases hfirst : firstTransition transitions event state with
  | none =>
    rw [hmachines.ignored _ _ _ hfirst]
    cases event <;> cases state <;> first | rfl | cases hfirst
  | some transition =>
    rw [hmachines.taken _ _ _ _ hfirst]
    cases event <;> cases state <;> cases hfirst <;> rfl

/-- The runtime between two of its functions. -/
structure Steady (s : System α) : Prop where
  /-- The runtime is started. -/
  started : s.runtime.started = true
  /-- Its task runs once for each restart. -/
  once : s.runtime.evaluationTask.setIterations = some 1
  /-- It is not in the middle of an evaluation. -/
  state : s.runtime.state = .Armed ∨ s.runtime.state = .Disabled
  /-- The task is enabled only while it is armed. -/
  armed : s.runtime.evaluationTask.enabled = true → s.runtime.state = .Armed

/-- What none of the functions of the runtime changes. -/
structure Same (s t : System α) : Prop where
  /-- The input is the same. -/
  temperature : t.temperature = s.temperature
  /-- The rule is the same. -/
  rule : t.engine.rule = s.engine.rule
  /-- The engine is configured or not, as before. -/
  configured : t.engine.configured = s.engine.configured
  /-- The policy is the same. -/
  faultPolicy : t.runtime.faultPolicy = s.runtime.faultPolicy
  /-- The same functions are subscribed. -/
  handlers : t.events.handlers = s.events.handlers

/-- What is the same for the rule is as eligible. -/
theorem Same.eligible (h : Same s t) : t.eligible = s.eligible := by
  simp only [System.eligible, System.dependencySuspends, System.dependencyHealthy,
    RuleEngine.isEnabled, h.temperature, h.rule, h.configured, h.faultPolicy]

/-- What is the same for the rule accepts the same events. -/
theorem Same.accepts (h : Same s t) : t.accepts = s.accepts := by
  simp only [System.accepts, h.eligible, System.dependencyHealthy, h.temperature]

/-- An eligible rule arms the runtime. -/
theorem refresh_eligible (hmachines : machines.Takes) (hs : Steady s) (he : s.eligible = true) :
    s.refreshEligibility machines = { s with runtime.state := .Armed } := by
  simp only [System.eligible, Bool.and_eq_true, Bool.not_eq_true'] at he
  unfold System.refreshEligibility
  rw [hs.started, he.1, he.2]
  rcases hs.state with hstate | hstate
  · simp [hstate]
    rw [← hstate]
  · simp [hstate, System.trigger, trigger_eq hmachines, next]

/-- A rule that is not eligible disarms the runtime and its task. -/
theorem refresh_ineligible (hmachines : machines.Takes) (hs : Steady s)
    (he : s.eligible = false) :
    ∃ result, s.refreshEligibility machines = { s with runtime := { s.runtime with
      pending := false, evaluationTask := s.runtime.evaluationTask.disable, state := .Disabled
      notes := s.runtime.notes ++ [Note.disarmed], lastRequestResult := result } } := by
  have hbranch : (!s.engine.isEnabled || s.dependencySuspends) = true := by
    cases henabled : s.engine.isEnabled <;> simp_all [System.eligible]
  have htask : (if s.runtime.evaluationTask.enabled then s.runtime.evaluationTask.disable
      else s.runtime.evaluationTask) = s.runtime.evaluationTask.disable := by
    split
    · rfl
    · rename_i hdisabled
      simp only [Bool.not_eq_true] at hdisabled
      simp [Task.disable, ← hdisabled]
  unfold System.refreshEligibility
  rw [hs.started, hbranch]
  dsimp only
  rw [htask]
  rcases hs.state with hstate | hstate
  · simp [hstate, System.trigger, trigger_eq hmachines, next]
  · simp [hstate]

/-- The second test of a request is that of the health of the input. -/
theorem suspends_comm (s : System α) :
    (!s.dependencyHealthy && s.runtime.faultPolicy == .DisableRule) = s.dependencySuspends :=
  Bool.and_comm _ _

/-- A request that is accepted is pending, in a task that is enabled. -/
theorem request_accepted (hmachines : machines.Takes) (hs : Steady s) (ha : s.accepts = true)
    (reason : String) :
    ∃ result, s.requestEvaluation machines reason =
      System.accepted (if s.runtime.evaluationTask.enabled then s.runtime.evaluationTask
        else s.runtime.evaluationTask.restart) result { s with runtime.state := .Armed } := by
  have he : s.eligible = true := by
    simp only [System.accepts, Bool.and_eq_true] at ha
    exact ha.1
  have hvalue : (s.dependencyHealthy && !s.temperature.hasValue) = false := by
    cases hhealthy : s.dependencyHealthy <;> simp_all [System.accepts]
  unfold System.requestEvaluation
  rw [refresh_eligible hmachines hs he]
  simp only [System.eligible, Bool.and_eq_true, Bool.not_eq_true'] at he
  dsimp only
  rw [he.1, suspends_comm]
  have hsame : System.dependencySuspends { s with runtime.state := .Armed } = false := he.2
  have hsameValue : (System.dependencyHealthy { s with runtime.state := .Armed } &&
      !s.temperature.hasValue) = false := hvalue
  rw [hsame, hsameValue]
  cases s.runtime.evaluationTask.enabled with
  | true => exact ⟨"coalesced", rfl⟩
  | false => exact ⟨_, rfl⟩

/-- A request that is not accepted leaves what the refresh left. -/
theorem request_refused (hmachines : machines.Takes) (hs : Steady s) (ha : s.accepts = false)
    (reason : String) :
    ∃ result, s.requestEvaluation machines reason =
      System.rejected result (s.refreshEligibility machines) := by
  unfold System.requestEvaluation
  cases he : s.eligible with
  | true =>
    have hvalue : (s.dependencyHealthy && !s.temperature.hasValue) = true := by
      cases hhealthy : s.dependencyHealthy <;> simp_all [System.accepts]
    rw [refresh_eligible hmachines hs he]
    simp only [System.eligible, Bool.and_eq_true, Bool.not_eq_true'] at he
    dsimp only
    rw [he.1, suspends_comm]
    have hsame : System.dependencySuspends { s with runtime.state := .Armed } = false := he.2
    have hsameValue : (System.dependencyHealthy { s with runtime.state := .Armed } &&
        !s.temperature.hasValue) = true := hvalue
    rw [hsame, hsameValue]
    exact ⟨"input_not_ready", rfl⟩
  | false =>
    obtain ⟨result, heq⟩ := refresh_ineligible hmachines hs he
    rw [heq]
    dsimp only
    cases henabled : s.engine.isEnabled with
    | false => exact ⟨"rule_disabled", rfl⟩
    | true =>
      have hsuspends : s.dependencySuspends = true := by
        simpa [System.eligible, henabled] using he
      rw [suspends_comm]
      exact ⟨"dependency_fault_disable_rule", (if_neg (by simp)).trans (if_pos hsuspends)⟩

/-- What a refresh and a request leave alone. -/
structure Kept (s t : System α) : Prop where
  /-- The bus is the same. -/
  events : t.events = s.events
  /-- The engine is the same. -/
  engine : t.engine = s.engine
  /-- The input is the same. -/
  temperature : t.temperature = s.temperature
  /-- The output is the same. -/
  heater : t.heater = s.heater
  /-- The policy is the same. -/
  faultPolicy : t.runtime.faultPolicy = s.runtime.faultPolicy

/-- What an execution keeps is the same for the rule. -/
theorem Kept.same (h : Kept s t) : Same s t :=
  ⟨h.temperature, by rw [h.engine], by rw [h.engine], h.faultPolicy, by rw [h.events]⟩

/-- A change of the runtime alone, which keeps its fault policy. -/
theorem Kept.of_runtime {runtime : RuleRuntime}
    (h : runtime.faultPolicy = s.runtime.faultPolicy) : Kept s { s with runtime } where
  events := rfl
  engine := rfl
  temperature := rfl
  heater := rfl
  faultPolicy := h

/-- What two calls keep is kept by the one after the other. -/
theorem Kept.trans {u : System α} (h : Kept s t) (hnext : Kept t u) : Kept s u where
  events := hnext.events.trans h.events
  engine := hnext.engine.trans h.engine
  temperature := hnext.temperature.trans h.temperature
  heater := hnext.heater.trans h.heater
  faultPolicy := hnext.faultPolicy.trans h.faultPolicy

/-- In whatever state the runtime is, a refresh changes the runtime alone. -/
theorem refreshEligibility_kept (machines : Machines RuntimeState RuntimeEvent) (s : System α) :
    Kept s (s.refreshEligibility machines) := by
  unfold System.refreshEligibility
  by_cases hstarted : (!s.runtime.started) = true
  · rw [if_pos hstarted]
    exact .of_runtime rfl
  · rw [if_neg hstarted]
    dsimp only
    split
    · split <;> exact .of_runtime rfl
    · split <;> exact .of_runtime rfl

/-- And so does a request. -/
theorem requestEvaluation_kept (machines : Machines RuntimeState RuntimeEvent) (reason : String)
    (s : System α) : Kept s (s.requestEvaluation machines reason).1 := by
  have hrefreshed := refreshEligibility_kept machines s
  unfold System.requestEvaluation
  dsimp only
  generalize s.refreshEligibility machines = t at hrefreshed ⊢
  repeat' split
  all_goals exact hrefreshed.trans (.of_runtime rfl)

/-- What `refreshEligibility` leaves. -/
structure Refreshed (s t : System α) : Prop where
  /-- Only the runtime has changed. -/
  kept : Kept s t
  /-- It is between two of its functions. -/
  steady : Steady t
  /-- An eligible rule is armed, and its task left alone. -/
  eligible : s.eligible = true → t.runtime.state = .Armed ∧
    t.runtime.evaluationTask = s.runtime.evaluationTask ∧
    t.runtime.pending = s.runtime.pending ∧ t.runtime.notes = s.runtime.notes
  /-- Another one is disarmed, with its task. -/
  ineligible : s.eligible = false → t.runtime.state = .Disabled ∧
    t.runtime.evaluationTask = s.runtime.evaluationTask.disable ∧
    t.runtime.pending = false ∧ t.runtime.notes = s.runtime.notes ++ [.disarmed]

/-- What a refresh does. -/
theorem refresh_spec (hmachines : machines.Takes) (hs : Steady s) :
    Refreshed s (s.refreshEligibility machines) := by
  cases he : s.eligible with
  | true =>
    rw [refresh_eligible hmachines hs he]
    have hsteady : Steady { s with runtime.state := .Armed } :=
      ⟨hs.started, hs.once, .inl rfl, fun _ => rfl⟩
    exact ⟨.of_runtime rfl, hsteady, fun _ => ⟨rfl, rfl, rfl, rfl⟩, fun h => by simp [he] at h⟩
  | false =>
    obtain ⟨result, heq⟩ := refresh_ineligible hmachines hs he
    rw [heq]
    have hsteady : Steady { s with runtime := { s.runtime with
        pending := false, evaluationTask := s.runtime.evaluationTask.disable, state := .Disabled
        notes := s.runtime.notes ++ [Note.disarmed], lastRequestResult := result } } :=
      ⟨hs.started, hs.once, .inr rfl, fun h => by cases h⟩
    exact ⟨.of_runtime rfl, hsteady, fun h => by simp [he] at h, fun _ => ⟨rfl, rfl, rfl, rfl⟩⟩

/-- What the refresh left is there when a request is turned down. -/
theorem Refreshed.rejected (h : Refreshed s t) (result : String) :
    Refreshed s (t.rejected result).1 where
  kept := ⟨h.kept.events, h.kept.engine, h.kept.temperature, h.kept.heater, h.kept.faultPolicy⟩
  steady := ⟨h.steady.started, h.steady.once, h.steady.state, h.steady.armed⟩
  eligible := h.eligible
  ineligible := h.ineligible

/-- What `requestEvaluation` leaves. -/
structure Requested (s t : System α) : Prop where
  /-- Only the runtime has changed. -/
  kept : Kept s t
  /-- It is between two of its functions. -/
  steady : Steady t
  /-- A request that is accepted is pending in an enabled task. -/
  accepted : s.accepts = true → t.runtime.state = .Armed ∧
    t.runtime.evaluationTask = (if s.runtime.evaluationTask.enabled then s.runtime.evaluationTask
      else s.runtime.evaluationTask.restart) ∧
    t.runtime.pending = true ∧ t.runtime.notes = s.runtime.notes ++ [.accepted]
  /-- Another one leaves what its refresh has left. -/
  refused : s.accepts = false → Refreshed s t

/-- A request returns true exactly when it is accepted. -/
theorem request_spec (hmachines : machines.Takes) (hs : Steady s) (reason : String) :
    Requested s (s.requestEvaluation machines reason).1 ∧
      (s.requestEvaluation machines reason).2 = s.accepts := by
  cases ha : s.accepts with
  | true =>
    obtain ⟨result, heq⟩ := request_accepted hmachines hs ha reason
    rw [heq]
    have hsteady : Steady (System.accepted (if s.runtime.evaluationTask.enabled
        then s.runtime.evaluationTask else s.runtime.evaluationTask.restart) result
        { s with runtime.state := .Armed }).1 := by
      refine ⟨hs.started, ?_, .inl rfl, fun _ => rfl⟩
      have honce := hs.once
      change Task.setIterations (if s.runtime.evaluationTask.enabled then _ else _) = some 1
      split <;> exact honce
    exact ⟨⟨.of_runtime rfl, hsteady, fun _ => ⟨rfl, rfl, rfl, rfl⟩, fun h => by simp [ha] at h⟩,
      rfl⟩
  | false =>
    obtain ⟨result, heq⟩ := request_refused hmachines hs ha reason
    rw [heq]
    have hrefreshed : Refreshed s ((s.refreshEligibility machines).rejected result).1 :=
      (refresh_spec hmachines hs).rejected result
    exact ⟨⟨hrefreshed.kept, hrefreshed.steady, fun h => by simp [ha] at h, fun _ => hrefreshed⟩,
      rfl⟩

/-! ### What a run does -/

/-- The heater is enabled and healthy. -/
structure HeaterReady (heater : VirtualActuator) : Prop where
  /-- The heater is enabled. -/
  enabled : heater.component.state ≠ .Disabled
  /-- And healthy. -/
  health : heater.component.health = { state := .Ok, faultCode := "" }

/-- A ready heater is enabled. -/
theorem HeaterReady.isEnabled {heater : VirtualActuator} (h : HeaterReady heater) :
    heater.isEnabled = true := by
  simpa [VirtualActuator.isEnabled] using h.enabled

/-- No desired state is `Disabled`. -/
theorem desiredState_ne (desiredOn : Bool) :
    VirtualActuator.desiredState desiredOn ≠ .Disabled := by
  cases desiredOn <;> simp [VirtualActuator.desiredState]

/-- What is posted while the runtime works: what waited goes on waiting, with a
few events that nobody asks to evaluate. -/
structure Posted (bound : ℕ) (before after : EventBus Handler) : Prop where
  /-- What waited still waits. -/
  kept : ∀ e ∈ before.pending, e ∈ after.pending
  /-- What is new asks for no evaluation. -/
  added : ∀ e ∈ after.pending, e ∈ before.pending ∨ evaluationReason e = none
  /-- There is not too much of it. -/
  length_le : after.pending.length ≤ before.pending.length + bound
  /-- The same functions are subscribed. -/
  handlers : after.handlers = before.handlers

/-- No post is a post within every bound. -/
theorem Posted.refl (bus : EventBus Handler) (bound : ℕ) : Posted bound bus bus :=
  ⟨fun _ h => h, fun _ h => .inl h, Nat.le_add_right _ _, rfl⟩

/-- Posts after posts. -/
theorem Posted.trans {first second : ℕ} {a b c : EventBus Handler} (hab : Posted first a b)
    (hbc : Posted second b c) : Posted (first + second) a c where
  kept := fun e he => hbc.kept e (hab.kept e he)
  added := by
    intro e he
    rcases hbc.added e he with hb | hnone
    · exact hab.added e hb
    · exact .inr hnone
  length_le := by
    have hfirst := hab.length_le
    have hsecond := hbc.length_le
    omega
  handlers := hbc.handlers.trans hab.handlers

/-- One event that nobody asks to evaluate. -/
theorem posted_post (type : RuntimeEventType) (source : String) (bus : EventBus Handler)
    (h : evaluationReason (.copied type source) = none) : Posted 1 bus (bus.post type source) where
  kept := fun _ he => EventBus.mem_post he
  added := by
    intro e he
    rcases EventBus.mem_of_mem_post he with hold | rfl
    · exact .inl hold
    · exact .inr h
  length_le := EventBus.length_post_le type source bus
  handlers := EventBus.post_handlers

/-- An event of another type than the two does not ask for an evaluation. -/
theorem evaluationReason_of_type {event : Event} (hvalue : event.type ≠ .InputValueChanged)
    (hhealth : event.type ≠ .ComponentHealthChanged) : evaluationReason event = none := by
  obtain ⟨type, source⟩ := event
  unfold evaluationReason
  split
  · rfl
  · cases type with
    | InputValueChanged => exact absurd rfl hvalue
    | ComponentHealthChanged => exact absurd rfl hhealth
    | ComponentStateChanged => rfl
    | SupervisorStateChanged => rfl
    | RuleEvaluated => rfl

/-- A heater that is ready takes the desired state, and posts one event at most. -/
theorem ruleApplyDesired_spec (hheater : HeaterReady s.heater) (desiredOn : Bool) :
    (s.ruleApplyDesired desiredOn).2 = true ∧
      (s.ruleApplyDesired desiredOn).1 = { s with
        heater := (s.ruleApplyDesired desiredOn).1.heater
        events := (s.ruleApplyDesired desiredOn).1.events } ∧
      HeaterReady (s.ruleApplyDesired desiredOn).1.heater ∧
      (s.ruleApplyDesired desiredOn).1.heater.isOn = desiredOn ∧
      Posted 1 s.events (s.ruleApplyDesired desiredOn).1.events := by
  have happly : s.heater.applyDesired HEATER_ID desiredOn s.events =
      (s.heater.transitionTo HEATER_ID (VirtualActuator.desiredState desiredOn) .Ok "" s.events,
        true) := by
    rw [VirtualActuator.applyDesired, hheater.isEnabled]
    rfl
  unfold System.ruleApplyDesired
  rw [happly]
  refine ⟨rfl, rfl, ⟨desiredState_ne desiredOn, rfl⟩, ?_, ?_⟩
  · cases desiredOn <;> rfl
  · obtain ⟨hlength, hpending⟩ := pending_transitionTo_same HEATER_ID
      (VirtualActuator.desiredState desiredOn) .Ok "" s.heater.component s.events
      (by rw [hheater.health]) (by rw [hheater.health]; rfl)
    refine ⟨fun e he => mem_transitionTo he, fun e he => ?_, hlength, transitionTo_handlers⟩
    rcases hpending e he with hold | rfl
    · exact .inl hold
    · exact .inr (evaluationReason_of_type (by simp [Event.copied]) (by simp [Event.copied]))

/-- What an act leaves: the runtime as it was, but for a result. -/
structure Acted (s t : System α) : Prop where
  /-- Of the runtime only a result has changed. -/
  runtime : ∃ result, t.runtime = { s.runtime with lastRunResult := result }
  /-- Nothing else of the rule has. -/
  same : Same s t
  /-- The heater is still ready. -/
  heater : HeaterReady t.heater
  /-- Two events were posted at most. -/
  posted : Posted 2 s.events t.events

/-- A result is part of an act. -/
theorem Acted.ran (h : Acted s t) (result : String) : Acted s (t.ran result) := by
  obtain ⟨⟨previous, hruntime⟩, hsame, hheater, hposted⟩ := h
  refine ⟨⟨result, ?_⟩, ⟨hsame.temperature, hsame.rule, hsame.configured, hsame.faultPolicy,
    hsame.handlers⟩, hheater, hposted⟩
  simp only [System.ran, hruntime]

/-- Nothing is an act too. -/
theorem Acted.refl (hheater : HeaterReady s.heater) : Acted s s :=
  ⟨⟨s.runtime.lastRunResult, rfl⟩, (Kept.of_runtime rfl).same, hheater, .refl _ _⟩

/-- The desired state is taken, as one act. -/
theorem ruleApplyDesired_acted (hheater : HeaterReady s.heater) (desiredOn : Bool) :
    ∃ t, s.ruleApplyDesired desiredOn = (t, true) ∧ Acted s t ∧ t.heater.isOn = desiredOn ∧
      Posted 1 s.events t.events := by
  obtain ⟨htaken, hframe, hready, hon, hposted⟩ := ruleApplyDesired_spec hheater desiredOn
  generalize s.ruleApplyDesired desiredOn = applied at *
  obtain ⟨t, taken⟩ := applied
  obtain rfl : taken = true := htaken
  dsimp only at hframe hready hon hposted
  refine ⟨t, rfl, ⟨⟨s.runtime.lastRunResult, by rw [hframe]⟩, ?_, hready, ?_⟩, hon, hposted⟩
  · exact ⟨by rw [hframe], by rw [hframe], by rw [hframe], by rw [hframe], hposted.handlers⟩
  · exact hposted.trans (.refl _ 1)

/-- The policy of a resolution is carried out. -/
theorem actOnPolicy_spec (hheater : HeaterReady s.heater) (resolution : ActuatorFaultResolution) :
    Acted s (s.actOnPolicy resolution) ∧ (resolution.applyDesired = true →
      (s.actOnPolicy resolution).heater.isOn = resolution.desiredOn) := by
  unfold System.actOnPolicy
  dsimp only
  by_cases happly : resolution.applyDesired = true
  · rw [if_pos happly]
    obtain ⟨t, heq, hacted, hon, _⟩ := ruleApplyDesired_acted hheater resolution.desiredOn
    rw [heq]
    exact ⟨hacted.ran _, fun _ => hon⟩
  · rw [if_neg happly]
    refine ⟨?_, fun h => absurd h happly⟩
    by_cases halarm : resolution.alarmOnly = true
    · rw [if_pos halarm]
      exact (Acted.refl hheater).ran _
    · rw [if_neg halarm]
      exact (Acted.refl hheater).ran _

/-- The state after evaluation is entered and left is the state before. -/
theorem trigger_evaluate (hmachines : machines.Takes) (hstate : s.runtime.state = .Armed) :
    s.trigger machines .EventEvaluate = { s with runtime.state := .Evaluating } := by
  simp [System.trigger, trigger_eq hmachines, hstate, next]

/-- An act during the evaluation, with the way back. -/
theorem acted_of_evaluating (hmachines : machines.Takes) (hstate : s.runtime.state = .Armed)
    (h : Acted { s with runtime.state := .Evaluating } t) :
    Acted s (t.trigger machines .EventDone) := by
  obtain ⟨⟨result, hruntime⟩, hsame, hheater, hposted⟩ := h
  refine ⟨⟨result, ?_⟩, ⟨hsame.temperature, hsame.rule, hsame.configured, hsame.faultPolicy,
    hsame.handlers⟩, hheater, hposted⟩
  simp [System.trigger, trigger_eq hmachines, hruntime, next, ← hstate]

/-- While the input is not healthy, the output is where a safe policy wants it. -/
structure Safe (s : System α) : Prop where
  /-- Under `SAFE_OFF` the output is off. -/
  off : s.dependencyHealthy = false → s.engine.isEnabled = true →
    s.runtime.faultPolicy = .SafeOff → s.heater.isOn = false
  /-- Under `SAFE_ON` it is on. -/
  on : s.dependencyHealthy = false → s.engine.isEnabled = true →
    s.runtime.faultPolicy = .SafeOn → s.heater.isOn = true

/-- A healthy input asks nothing of the output. -/
theorem Safe.of_healthy (h : s.dependencyHealthy = true) : Safe s :=
  ⟨fun hunhealthy => by simp [h] at hunhealthy, fun hunhealthy => by simp [h] at hunhealthy⟩

/-- What is the same is as safe. -/
theorem Safe.same (h : Same s t) (hheater : t.heater = s.heater) (hs : Safe s) : Safe t := by
  have hhealthy : t.dependencyHealthy = s.dependencyHealthy := by
    rw [System.dependencyHealthy, h.temperature, System.dependencyHealthy]
  have henabled : t.engine.isEnabled = s.engine.isEnabled := by
    rw [RuleEngine.isEnabled, h.rule, h.configured, RuleEngine.isEnabled]
  refine ⟨?_, ?_⟩
  · rw [hhealthy, henabled, h.faultPolicy, hheater]
    exact hs.off
  · rw [hhealthy, henabled, h.faultPolicy, hheater]
    exact hs.on

/-- The queue has no part in it. -/
theorem safe_events {events : EventBus Handler} : Safe { s with events } ↔ Safe s :=
  ⟨fun h => ⟨h.off, h.on⟩, fun h => ⟨h.off, h.on⟩⟩

/-- The fault policy acts on the output, and puts it where a safe policy wants it. -/
theorem runPolicy_spec (hmachines : machines.Takes) (hstate : s.runtime.state = .Armed)
    (hheater : HeaterReady s.heater) (currentOn : Bool) :
    Acted s (s.runPolicy machines
        (resolveActuatorFaultPolicy s.runtime.faultPolicy currentOn)) ∧
      Safe (s.runPolicy machines
        (resolveActuatorFaultPolicy s.runtime.faultPolicy currentOn)) := by
  unfold System.runPolicy
  rw [trigger_evaluate hmachines hstate]
  obtain ⟨hacted, hon⟩ := actOnPolicy_spec (s := { s with runtime.state := .Evaluating }) hheater
    (resolveActuatorFaultPolicy s.runtime.faultPolicy currentOn)
  have hpolicy := hacted.same.faultPolicy
  refine ⟨acted_of_evaluating hmachines hstate hacted, ?_, ?_⟩
  · intro _ _ hoff
    have hsafe : s.runtime.faultPolicy = .SafeOff := hpolicy.symm.trans hoff
    rw [hsafe] at hon ⊢
    exact hon rfl
  · intro _ _ hsafeOn
    have hsafe : s.runtime.faultPolicy = .SafeOn := hpolicy.symm.trans hsafeOn
    rw [hsafe] at hon ⊢
    exact hon rfl

variable [LT α] [DecidableLT α]

/-- The decision of a rule is carried out. -/
theorem actOnRule_spec (hheater : HeaterReady s.heater) : Acted s s.actOnRule := by
  unfold System.actOnRule
  dsimp only
  have hrule := RuleEngine.evaluate_rule s.temperature.value s.heater.isOn s.engine s.events
  have hposted : Posted 1 s.events
      (s.engine.evaluate s.temperature.value s.heater.isOn s.events).1.2 := by
    unfold RuleEngine.evaluate
    split
    · exact .refl _ _
    · split
      · exact .refl _ _
      · split
        · exact .refl _ _
        · exact posted_post _ _ _ (evaluationReason_of_type (by simp [Event.copied])
            (by simp [Event.copied]))
  generalize s.engine.evaluate s.temperature.value s.heater.isOn s.events = evaluated at *
  obtain ⟨⟨engine, events⟩, answer⟩ := evaluated
  dsimp only at hrule hposted ⊢
  have hevaluated : Acted s { s with engine, events } := by
    refine ⟨⟨s.runtime.lastRunResult, rfl⟩, ⟨rfl, hrule.1, hrule.2, rfl, hposted.handlers⟩,
      hheater, ?_⟩
    exact hposted.trans (.refl _ 1)
  cases answer with
  | error error => exact hevaluated.ran _
  | ok decided =>
    obtain ⟨desired, decision⟩ := decided
    dsimp only
    by_cases hdisabled : decision = .Disabled
    · rw [if_pos hdisabled]
      exact hevaluated.ran _
    · rw [if_neg hdisabled]
      obtain ⟨t, heq, hacted, _, happlied⟩ :=
        ruleApplyDesired_acted (s := { s with engine, events }) hheater desired
      rw [heq]
      have hboth : Acted s t := by
        refine ⟨hacted.runtime, ?_, hacted.heater, hposted.trans happlied⟩
        exact ⟨hacted.same.temperature, hacted.same.rule.trans hrule.1,
          hacted.same.configured.trans hrule.2, hacted.same.faultPolicy,
          hacted.same.handlers.trans hposted.handlers⟩
      exact hboth.ran _

/-- An enabled rule is evaluated, and the runtime is armed again. -/
theorem runRule_spec (hmachines : machines.Takes) (hstate : s.runtime.state = .Armed)
    (hheater : HeaterReady s.heater) (henabled : s.engine.isEnabled = true) :
    Acted s (s.runRule machines) := by
  unfold System.runRule
  rw [trigger_evaluate hmachines hstate]
  have hacted := actOnRule_spec (s := { s with runtime.state := .Evaluating }) hheater
  have hstill : (System.actOnRule { s with runtime.state := .Evaluating }).engine.isEnabled =
      true := by
    rw [RuleEngine.isEnabled, hacted.same.rule, hacted.same.configured]
    exact henabled
  dsimp only
  rw [if_pos hstill]
  exact acted_of_evaluating hmachines hstate hacted

/-- What `executeEvaluation` leaves. -/
structure Executed (s t : System α) : Prop where
  /-- What the rule is about stays. -/
  same : Same s t
  /-- The runtime is between two of its functions. -/
  steady : Steady t
  /-- Nothing is pending. -/
  pending : t.runtime.pending = false
  /-- An eligible rule is armed again. -/
  eligible : s.eligible = true → t.runtime.evaluationTask = s.runtime.evaluationTask ∧
    t.runtime.state = .Armed ∧ t.runtime.notes = s.runtime.notes ++ [.executed]
  /-- Another one is disarmed, with its task. -/
  ineligible : s.eligible = false → t.runtime.state = .Disabled ∧
    t.runtime.evaluationTask = s.runtime.evaluationTask.disable ∧
      t.runtime.notes = s.runtime.notes ++ [.executed, .disarmed]
  /-- The heater is still ready. -/
  heater : HeaterReady t.heater
  /-- Two events were posted at most. -/
  posted : Posted 2 s.events t.events
  /-- The output is safe. -/
  safe : Safe t

omit [LT α] [DecidableLT α] in
/-- A disarmed runtime after a run. -/
theorem executed_of_refresh (hmachines : machines.Takes) {u : System α} (hs : Steady s)
    (hheater : HeaterReady s.heater) (he : s.eligible = false) (hsafe : Safe s)
    (hruntime : ∃ result policy, u = { s with runtime := { s.runtime with
      pending := false, notes := s.runtime.notes ++ [Note.executed]
      lastRunResult := result, lastPolicyResult := policy } }) :
    Executed s (u.refreshEligibility machines) := by
  obtain ⟨result, policy, rfl⟩ := hruntime
  obtain ⟨refreshed, heq⟩ := refresh_ineligible (s := { s with runtime := { s.runtime with
      pending := false, notes := s.runtime.notes ++ [Note.executed]
      lastRunResult := result, lastPolicyResult := policy } }) hmachines
    ⟨hs.started, hs.once, hs.state, hs.armed⟩ he
  rw [heq]
  refine ⟨Kept.same (s := s) (.of_runtime rfl), ⟨hs.started, hs.once, .inr rfl, fun h => ?_⟩, rfl,
    fun h => ?_, fun _ => ⟨rfl, rfl, by simp⟩, hheater, .refl _ _, ⟨hsafe.off, hsafe.on⟩⟩
  · cases h
  · simp [he] at h

omit [LT α] [DecidableLT α] in
/-- A run that acts leaves the runtime armed. -/
theorem executed_of_acted (hs : Steady s) (hstate : s.runtime.state = .Armed)
    (he : s.eligible = true) {u : System α} (hsafe : Safe t)
    (hruntime : ∃ policy, u = { s with runtime := { s.runtime with
      pending := false, notes := s.runtime.notes ++ [Note.executed]
      lastPolicyResult := policy } }) (h : Acted u t) : Executed s t := by
  obtain ⟨policy, rfl⟩ := hruntime
  obtain ⟨⟨result, hresult⟩, hsame, hheater, hposted⟩ := h
  refine ⟨⟨hsame.temperature, hsame.rule, hsame.configured, hsame.faultPolicy, hsame.handlers⟩,
    ⟨by simp [hresult, hs.started], by simp [hresult, hs.once], .inl (by simp [hresult, hstate]),
      fun _ => by simp [hresult, hstate]⟩, by simp [hresult], fun _ => ?_, fun h => ?_, hheater,
    hposted, hsafe⟩
  · simp [hresult, hstate]
  · simp [he] at h

/-- The callback of the task, from a runtime that is armed. -/
theorem execute_spec (hmachines : machines.Takes) (hs : Steady s)
    (hstate : s.runtime.state = .Armed) (hheater : HeaterReady s.heater) :
    Executed s (s.executeEvaluation machines) := by
  unfold System.executeEvaluation
  dsimp only
  cases henabled : s.engine.isEnabled with
  | false =>
    have he : s.eligible = false := by simp [System.eligible, henabled]
    have hsafe : Safe s := ⟨fun _ h => by simp [henabled] at h, fun _ h => by simp [henabled] at h⟩
    exact executed_of_refresh hmachines hs hheater he hsafe ⟨_, s.runtime.lastPolicyResult, rfl⟩
  | true =>
    cases hhealthy : s.dependencyHealthy with
    | false =>
      rw [if_neg (by simp)]
      rw [if_pos (by simpa [System.dependencyHealthy] using hhealthy)]
      cases hsuspends : (resolveActuatorFaultPolicy s.runtime.faultPolicy s.heater.isOn).suspendRule
        with
      | true =>
        have hpolicy : s.runtime.faultPolicy = .DisableRule := by
          cases hpolicy : s.runtime.faultPolicy <;>
            simp_all [resolveActuatorFaultPolicy]
        have he : s.eligible = false := by
          simp [System.eligible, System.dependencySuspends, hhealthy, hpolicy]
        have hsafe : Safe s := ⟨fun _ _ h => by simp [hpolicy] at h,
          fun _ _ h => by simp [hpolicy] at h⟩
        exact executed_of_refresh hmachines hs hheater he hsafe ⟨_, _, rfl⟩
      | false =>
        have hpolicy : s.runtime.faultPolicy ≠ .DisableRule := by
          intro hpolicy
          simp [resolveActuatorFaultPolicy, hpolicy] at hsuspends
        have he : s.eligible = true := by
          simp [System.eligible, System.dependencySuspends, henabled, hpolicy]
        obtain ⟨hacted, hsafe⟩ := runPolicy_spec (s := { s with runtime := { s.runtime with
            pending := false, notes := s.runtime.notes ++ [Note.executed]
            lastPolicyResult := actuatorFaultPolicyName s.runtime.faultPolicy } })
          hmachines hstate hheater s.heater.isOn
        exact executed_of_acted hs hstate he hsafe ⟨_, rfl⟩ hacted
    | true =>
      have he : s.eligible = true := by
        simp [System.eligible, System.dependencySuspends, henabled, hhealthy]
      rw [if_neg (by simp)]
      rw [if_neg (by simpa [System.dependencyHealthy] using hhealthy)]
      by_cases hvalue : (!s.temperature.hasValue) = true
      · rw [if_pos hvalue]
        have hacted := (Acted.refl (s := { s with runtime := { s.runtime with
          pending := false, notes := s.runtime.notes ++ [Note.executed] } }) hheater).ran
            "runtime_provider_unavailable"
        exact executed_of_acted hs hstate he (Safe.of_healthy hhealthy) ⟨_, rfl⟩ hacted
      · rw [if_neg hvalue]
        have hacted := runRule_spec (s := { s with runtime := { s.runtime with
          pending := false, notes := s.runtime.notes ++ [Note.executed] } }) hmachines hstate
            hheater henabled
        refine executed_of_acted hs hstate he (Safe.of_healthy ?_) ⟨_, rfl⟩ hacted
        rw [System.dependencyHealthy, hacted.same.temperature]
        exact hhealthy

end ProjEsp32.RuleExecution
