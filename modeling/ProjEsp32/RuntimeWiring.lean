import ProjEsp32.ControlLoop
import ProjEsp32.RuleAccounting

/-!
# The wiring of the rule runtime

In `main` the rule runtime asks the virtual temperature input and the virtual heater. The
runtime of the control loop is then the runtime with any providers whose answers are read
from these two: each function of the one is the function of the other, and every run of
the control loop is a run of the runtime. What holds of the runtime with any providers
holds in the control loop, that of its counters too.
-/

namespace ProjEsp32.RuntimeWiring

open ArduinoText CooperativeTask ControlLoop MachineEntries MachineLibrary RuleEvaluation
open RuleExecution RuleLoading RuntimeCore TransitionRuns VirtualComponents
open ProvidedRuntime (Answers Mirrored drive_spec)

variable {α : Type} [Zero α]

/-- What the functions of `main` answer. -/
def answers (s : System α) : Answers α where
  refreshHealth := s.temperature.health
  health := s.temperature.health
  inputReady := s.temperature.hasValue
  inputValue := s.temperature.value
  outputState := s.heater.isOn
  applyDesired _ := s.heater.isEnabled

/-- The runtime with these functions, and with the calls of the actuator so far. It is
subscribed to a bus of its own, on which the components post nothing. -/
def provided (applied : List (RuntimeState × Bool)) (events : EventBus Handler) (s : System α) :
    ProvidedRuntime.System α where
  inputSourceId := TEMPERATURE_ID
  events := events
  engine := s.engine
  runtime :=
    { machine := { current := s.runtime.state, initialized := s.runtime.started }
      evaluationTask := s.runtime.evaluationTask
      state := s.runtime.state
      faultPolicy := s.runtime.faultPolicy
      started := s.runtime.started
      pending := s.runtime.pending
      lastRequestResult := s.runtime.lastRequestResult
      lastRunResult := s.runtime.lastRunResult
      lastPolicyResult := s.runtime.lastPolicyResult
      applied }

/-- The runtime of the control loop is this runtime with providers. -/
def Wires (s : System α) (p : ProvidedRuntime.System α) : Prop :=
  ∃ applied events, events.handlers = s.events.handlers ∧ p = provided applied events s

/-! ### What does not depend on the bus -/

/-- Who is subscribed decides a subscription. -/
theorem subscribe_handlers {bus other : EventBus Handler} (h : bus.handlers = other.handlers)
    (handler : Handler) :
    (bus.subscribe handler).2 = (other.subscribe handler).2 ∧
      (bus.subscribe handler).1.handlers = (other.subscribe handler).1.handlers := by
  unfold EventBus.subscribe
  rw [h]
  by_cases hfull : MAX_HANDLERS ≤ other.handlers.length
  · rw [if_pos hfull, if_pos hfull]
    exact ⟨rfl, h⟩
  rw [if_neg hfull, if_neg hfull]
  by_cases hknown : handler ∈ other.handlers
  · rw [if_pos hknown, if_pos hknown]
    exact ⟨rfl, h⟩
  · rw [if_neg hknown, if_neg hknown]
    exact ⟨rfl, rfl⟩

/-- A rule is evaluated alike on any bus. -/
theorem evaluate_bus [LT α] [DecidableLT α] (engine : RuleEngine α)
    (inputValue : ArduinoJson.CFloat α) (currentOutput : Bool) (bus other : EventBus Handler) :
    (engine.evaluate inputValue currentOutput bus).1.1 =
        (engine.evaluate inputValue currentOutput other).1.1 ∧
      (engine.evaluate inputValue currentOutput bus).2 =
        (engine.evaluate inputValue currentOutput other).2 ∧
      (engine.evaluate inputValue currentOutput bus).1.2.handlers = bus.handlers := by
  unfold RuleEngine.evaluate
  by_cases hnone : (!engine.configured) = true
  · rw [if_pos hnone, if_pos hnone]
    exact ⟨rfl, rfl, rfl⟩
  rw [if_neg hnone, if_neg hnone]
  by_cases hdisabled : (!engine.rule.enabled) = true
  · rw [if_pos hdisabled, if_pos hdisabled]
    exact ⟨rfl, rfl, rfl⟩
  rw [if_neg hdisabled, if_neg hdisabled]
  by_cases hinvalid : (!inputValue.isfinite) = true
  · rw [if_pos hinvalid, if_pos hinvalid]
    exact ⟨rfl, rfl, rfl⟩
  · rw [if_neg hinvalid, if_neg hinvalid]
    exact ⟨rfl, rfl, EventBus.post_handlers⟩

/-! ### One function -/

section Functions

variable {machines : Machines RuntimeState RuntimeEvent}
variable {entries : EntryMachines RuntimeState RuntimeEvent}
variable (hmachines : machines.Takes) (hentries : entries.Documented)
variable (applied : List (RuntimeState × Bool)) (events : EventBus Handler) (s : System α)
include hmachines hentries

/-- Both machines take the same transition. -/
theorem provided_trigger (hstarted : s.runtime.started = true) (event : RuntimeEvent) :
    (provided applied events s).drive entries event =
      provided applied events (s.trigger machines event) := by
  have hmirrored : Mirrored (provided applied events s) := ⟨rfl, hstarted⟩
  rw [drive_spec hentries hmirrored, System.trigger, trigger_eq hmachines]
  rfl

/-- A runtime that is disarmed leaves its state, if it is not there already. -/
theorem provided_disarm (hstarted : s.runtime.started = true) :
    (if (provided applied events s).runtime.state != .Disabled
      then (provided applied events s).drive entries .EventDisarm else provided applied events s) =
      provided applied events
        (if s.runtime.state != .Disabled then s.trigger machines .EventDisarm else s) := by
  by_cases hstate : (s.runtime.state != .Disabled) = true
  · rw [if_pos hstate]
    exact (if_pos hstate).trans
      (provided_trigger hmachines hentries applied events s hstarted .EventDisarm)
  · rw [if_neg hstate]
    exact if_neg hstate

/-- A refresh under the entry functions is one of the wired runtime. -/
theorem provided_refresh :
    (provided applied events s).refreshEligibility entries s.temperature.health =
      provided applied events (s.refreshEligibility machines) := by
  unfold ProvidedRuntime.System.refreshEligibility System.refreshEligibility
  by_cases hstarted : (!s.runtime.started) = true
  · rw [if_pos hstarted]
    exact if_pos hstarted
  rw [if_neg hstarted]
  refine (if_neg hstarted).trans ?_
  by_cases hineligible : (!s.engine.isEnabled || s.dependencySuspends) = true
  · rw [if_pos hineligible]
    refine (if_pos hineligible).trans ?_
    have hleft := provided_disarm hmachines hentries applied events
      { s with
        runtime.pending := false
        runtime.evaluationTask :=
          if s.runtime.evaluationTask.enabled then s.runtime.evaluationTask.disable
          else s.runtime.evaluationTask
        runtime.notes := s.runtime.notes ++ [Note.disarmed] } (by simpa using hstarted)
    refine (congrArg (fun left : ProvidedRuntime.System α =>
      left.requested (if s.dependencySuspends then "dependency_fault_disable_rule"
        else if !left.engine.configured then "no_active_rule" else "rule_disabled")) hleft).trans ?_
    dsimp only
    by_cases hstate : (s.runtime.state != .Disabled) = true
    · rw [if_pos hstate]
      rfl
    · rw [if_neg hstate]
      rfl
  · rw [if_neg hineligible]
    refine (if_neg hineligible).trans ?_
    by_cases hdisabled : (s.runtime.state == .Disabled) = true
    · rw [if_pos hdisabled]
      exact (if_pos hdisabled).trans
        (provided_trigger hmachines hentries applied events s (by simpa using hstarted) .EventArm)
    · rw [if_neg hdisabled]
      exact if_neg hdisabled

/-- A change of the fault policy is one of the wired runtime. -/
theorem provided_setFaultPolicy (policy : ActuatorFaultPolicy) :
    (provided applied events s).setFaultPolicy entries s.temperature.health policy =
      provided applied events (s.setFaultPolicy machines policy) :=
  provided_refresh hmachines hentries applied events { s with runtime.faultPolicy := policy }

/-- A request is answered alike. -/
theorem provided_request (reason : String) :
    (provided applied events s).requestEvaluation entries (answers s) reason =
      (provided applied events (s.requestEvaluation machines reason).1,
        (s.requestEvaluation machines reason).2) := by
  have hkept := refreshEligibility_kept machines s
  have hanswers : answers s = answers (s.refreshEligibility machines) := by
    rw [answers, answers, hkept.temperature, hkept.heater]
  have hrefreshed : (provided applied events s).refreshEligibility entries
      (answers (s.refreshEligibility machines)).refreshHealth =
        provided applied events (s.refreshEligibility machines) := by
    rw [← hanswers]
    exact provided_refresh hmachines hentries applied events s
  rw [hanswers]
  unfold ProvidedRuntime.System.requestEvaluation System.requestEvaluation
  rw [hrefreshed]
  generalize s.refreshEligibility machines = t
  dsimp only
  by_cases hdisabled : (!t.engine.isEnabled) = true
  · rw [if_pos hdisabled]
    exact if_pos hdisabled
  rw [if_neg hdisabled]
  refine (if_neg hdisabled).trans ?_
  by_cases hsuspended : (!t.dependencyHealthy && t.runtime.faultPolicy == .DisableRule) = true
  · rw [if_pos hsuspended]
    exact if_pos hsuspended
  rw [if_neg hsuspended]
  refine (if_neg hsuspended).trans ?_
  by_cases hvalue : (t.dependencyHealthy && !t.temperature.hasValue) = true
  · rw [if_pos hvalue]
    exact if_pos hvalue
  rw [if_neg hvalue]
  refine (if_neg hvalue).trans ?_
  by_cases harmed : (t.runtime.state != .Armed) = true
  · rw [if_pos harmed]
    exact if_pos harmed
  rw [if_neg harmed]
  refine (if_neg harmed).trans ?_
  by_cases henabled : t.runtime.evaluationTask.enabled = true
  · rw [if_pos henabled]
    exact if_pos henabled
  rw [if_neg henabled]
  exact if_neg henabled

/-- An event asks alike, if its source is the text that the queue has of it. -/
theorem provided_event {event : Event} (hsource : cString event.source = event.source) :
    (provided applied events s).handleEvent entries (answers s) event =
      provided applied events (s.handleEvent machines event) := by
  have hrequest (reason : String) :
      ((provided applied events s).requestEvaluation entries (answers s) reason).1 =
        provided applied events (s.requestEvaluation machines reason).1 := by
    rw [provided_request hmachines hentries]
  have hforeign : ((provided applied events s).inputSourceId.length != 0 &&
      cString event.source != cString (provided applied events s).inputSourceId) =
        (event.source != TEMPERATURE_ID) := by
    have hid : cString TEMPERATURE_ID = TEMPERATURE_ID := by decide
    change (TEMPERATURE_ID.length != 0 && cString event.source != cString TEMPERATURE_ID) = _
    rw [hsource, hid]
    rfl
  unfold ProvidedRuntime.System.handleEvent System.handleEvent evaluationReason
  rw [hforeign]
  by_cases hother : (event.source != TEMPERATURE_ID) = true
  · rw [if_pos hother, if_pos hother]
  rw [if_neg hother, if_neg hother]
  cases event.type with
  | InputValueChanged => exact hrequest "input_event"
  | ComponentHealthChanged => exact hrequest "dependency_health"
  | ComponentStateChanged => rfl
  | SupervisorStateChanged => rfl
  | RuleEvaluated => rfl

/-- The first run of the machine enters the state that it is in. -/
theorem provided_begin (h : events.handlers = s.events.handlers) :
    Wires (s.begin machines) ((provided applied events s).begin entries s.temperature.health) := by
  obtain ⟨hanswer, hhandlers⟩ := subscribe_handlers h .eventHandler
  unfold ProvidedRuntime.System.begin System.begin
  by_cases hstarted : s.runtime.started = true
  · rw [if_pos hstarted]
    exact ⟨applied, events, h, if_pos hstarted⟩
  rw [if_neg hstarted]
  have hwaiting : s.runtime.started = false := by simpa using hstarted
  have hfirst := hentries.first (provided applied events s).runtime.machine hwaiting
  generalize s.events.subscribe .eventHandler = subscribed at hanswer hhandlers
  obtain ⟨subscribedEvents, accepted⟩ := subscribed
  generalize hown : (provided applied events s).events.subscribe .eventHandler = own
  rw [show events.subscribe .eventHandler = own from hown] at hanswer hhandlers
  obtain ⟨ownEvents, ownAccepted⟩ := own
  obtain rfl : ownAccepted = accepted := hanswer
  dsimp only at hhandlers
  cases ownAccepted with
  | false => exact ⟨applied, ownEvents, hhandlers, if_neg hstarted⟩
  | true =>
    have hkept := refreshEligibility_kept machines
      { s with events := subscribedEvents, runtime.started := true }
    have hentered : { { provided applied events s with events := ownEvents }.entered
          (entries.runMachine (provided applied events s).runtime.machine) with
        runtime.started := true } =
          provided applied ownEvents
            { s with events := subscribedEvents, runtime.started := true } := by
      rw [hfirst]
      rfl
    refine ⟨applied, ownEvents, hhandlers.trans (by rw [hkept.events]), ?_⟩
    refine (if_neg hstarted).trans ?_
    dsimp only
    rw [hentered]
    exact provided_refresh hmachines hentries applied ownEvents
      { s with events := subscribedEvents, runtime.started := true }

end Functions

/-! ### Evaluations -/

section Evaluations

variable {machines : Machines RuntimeState RuntimeEvent}
variable {entries : EntryMachines RuntimeState RuntimeEvent}
variable {s : System α} {p : ProvidedRuntime.System α} {a : Answers α}

/-- Both have one engine. -/
theorem Wires.engine (h : Wires s p) : p.engine = s.engine := by
  obtain ⟨_, _, _, rfl⟩ := h
  rfl

/-- Both have one fault policy. -/
theorem Wires.faultPolicy (h : Wires s p) :
    p.runtime.faultPolicy = s.runtime.faultPolicy := by
  obtain ⟨_, _, _, rfl⟩ := h
  rfl

/-- Both have one task. -/
theorem Wires.evaluationTask (h : Wires s p) :
    p.runtime.evaluationTask = s.runtime.evaluationTask := by
  obtain ⟨_, _, _, rfl⟩ := h
  rfl

/-- The result of a run. -/
theorem Wires.ran (h : Wires s p) (result : String) : Wires (s.ran result) (p.ran result) := by
  obtain ⟨applied, events, hhandlers, rfl⟩ := h
  exact ⟨applied, events, hhandlers, rfl⟩

/-- The heater takes the desired state, or refuses it because it is not enabled. -/
theorem Wires.applyDesired (h : Wires s p) (ha : a.applyDesired = (answers s).applyDesired)
    (desiredOn : Bool) :
    Wires (s.ruleApplyDesired desiredOn).1 (p.applyDesired a desiredOn).1 ∧
      (p.applyDesired a desiredOn).2 = (s.ruleApplyDesired desiredOn).2 := by
  obtain ⟨applied, events, hhandlers, rfl⟩ := h
  have hanswer : a.applyDesired desiredOn = s.heater.isEnabled := by
    rw [ha]
    rfl
  unfold ProvidedRuntime.System.applyDesired System.ruleApplyDesired VirtualActuator.applyDesired
  rw [hanswer]
  cases s.heater.isEnabled with
  | false => exact ⟨⟨_, events, hhandlers, rfl⟩, rfl⟩
  | true =>
    refine ⟨⟨_, events, ?_, rfl⟩, rfl⟩
    exact hhandlers.trans transitionTo_handlers.symm

/-- What the policy does to the output is what it does on the device. -/
theorem Wires.actOnPolicy (h : Wires s p) (ha : a.applyDesired = (answers s).applyDesired)
    (resolution : ActuatorFaultResolution) :
    Wires (s.actOnPolicy resolution) (p.actOnPolicy a resolution) := by
  obtain ⟨happlied, hanswer⟩ := h.applyDesired ha resolution.desiredOn
  unfold ProvidedRuntime.System.actOnPolicy System.actOnPolicy
  rw [h.faultPolicy]
  dsimp only
  generalize p.applyDesired a resolution.desiredOn = asked at happlied hanswer
  generalize s.ruleApplyDesired resolution.desiredOn = taken at happlied hanswer
  obtain ⟨q, answer⟩ := asked
  obtain ⟨t, takes⟩ := taken
  obtain rfl : answer = takes := hanswer
  by_cases hdesired : resolution.applyDesired = true
  · rw [if_pos hdesired, if_pos hdesired]
    cases answer with
    | false => exact happlied.ran _
    | true => exact happlied.ran _
  rw [if_neg hdesired, if_neg hdesired]
  by_cases halarm : resolution.alarmOnly = true
  · rw [if_pos halarm, if_pos halarm]
    exact h.ran _
  · rw [if_neg halarm, if_neg halarm]
    exact h.ran _

/-- An event of the machine moves both runtimes in the same way. -/
theorem Wires.drive (hmachines : machines.Takes) (hentries : entries.Documented) (h : Wires s p)
    (hstarted : s.runtime.started = true) (event : RuntimeEvent) :
    Wires (s.trigger machines event) (p.drive entries event) := by
  obtain ⟨applied, events, hhandlers, rfl⟩ := h
  exact ⟨applied, events, hhandlers,
    provided_trigger hmachines hentries applied events s hstarted event⟩

/-- A refresh keeps the runtimes wired. -/
theorem Wires.refresh (hmachines : machines.Takes) (hentries : entries.Documented)
    (h : Wires s p) :
    Wires (s.refreshEligibility machines)
      (p.refreshEligibility entries s.temperature.health) := by
  obtain ⟨applied, events, hhandlers, rfl⟩ := h
  have hkept := refreshEligibility_kept machines s
  exact ⟨applied, events, hhandlers.trans (by rw [hkept.events]),
    provided_refresh hmachines hentries applied events s⟩

variable [LT α] [DecidableLT α]

/-- The rule is evaluated on the bus of each, and its decision carried out. -/
theorem Wires.actOnRule (h : Wires s p) : Wires s.actOnRule (p.actOnRule (answers s)) := by
  obtain ⟨applied, events, hhandlers, rfl⟩ := h
  have hbus := evaluate_bus s.engine s.temperature.value s.heater.isOn events s.events
  have hposted := (evaluate_bus s.engine s.temperature.value s.heater.isOn s.events events).2.2
  unfold ProvidedRuntime.System.actOnRule System.actOnRule
  generalize hown : (provided applied events s).engine.evaluate (answers s).inputValue
    (answers s).outputState (provided applied events s).events = own
  rw [show s.engine.evaluate s.temperature.value s.heater.isOn events = own from hown] at hbus
  generalize s.engine.evaluate s.temperature.value s.heater.isOn s.events = evaluated
    at hbus hposted ⊢
  obtain ⟨⟨ownEngine, ownEvents⟩, ownResult⟩ := own
  obtain ⟨⟨engine, posted⟩, result⟩ := evaluated
  obtain ⟨hengine, hresult, hownHandlers⟩ := hbus
  obtain rfl : ownEngine = engine := hengine
  obtain rfl : ownResult = result := hresult
  have hevaluated : Wires { s with engine := ownEngine, events := posted }
      { provided applied events s with engine := ownEngine, events := ownEvents } :=
    ⟨applied, ownEvents, hownHandlers.trans (hhandlers.trans hposted.symm), rfl⟩
  cases ownResult with
  | error error => exact hevaluated.ran _
  | ok decided =>
    obtain ⟨desired, decision⟩ := decided
    dsimp only
    by_cases hdisabled : decision = .Disabled
    · rw [if_pos hdisabled, if_pos hdisabled]
      exact hevaluated.ran _
    rw [if_neg hdisabled, if_neg hdisabled]
    obtain ⟨happlied, hanswer⟩ := hevaluated.applyDesired (a := answers s) rfl desired
    generalize ProvidedRuntime.System.applyDesired (answers s) desired
      { provided applied events s with engine := ownEngine, events := ownEvents } = asked
      at happlied hanswer ⊢
    generalize System.ruleApplyDesired desired
      { s with engine := ownEngine, events := posted } = taken at happlied hanswer ⊢
    obtain ⟨q, answer⟩ := asked
    obtain ⟨t, takes⟩ := taken
    obtain rfl : answer = takes := hanswer
    cases answer with
    | false => exact happlied.ran _
    | true =>
      dsimp only
      rw [happlied.engine]
      exact happlied.ran _

omit [LT α] [DecidableLT α] in
/-- An act keeps the runtime started. -/
theorem acted_started {t : System α} (hacted : RuleExecution.Acted s t)
    (hstarted : s.runtime.started = true) : t.runtime.started = true := by
  obtain ⟨result, hruntime⟩ := hacted.runtime
  rw [hruntime]
  exact hstarted

omit [LT α] [DecidableLT α] in
/-- The branch of an input that is not healthy. -/
theorem Wires.runPolicy (hmachines : machines.Takes) (hentries : entries.Documented)
    (h : Wires s p) (hstarted : s.runtime.started = true) (hheater : HeaterReady s.heater)
    (resolution : ActuatorFaultResolution) :
    Wires (s.runPolicy machines resolution)
      (((p.drive entries .EventEvaluate).actOnPolicy (answers s) resolution).drive entries
        .EventDone) := by
  have hdriven := h.drive hmachines hentries hstarted .EventEvaluate
  have hacted := hdriven.actOnPolicy (a := answers s) rfl resolution
  have hspec := (actOnPolicy_spec (s := s.trigger machines .EventEvaluate) hheater resolution).1
  exact hacted.drive hmachines hentries (acted_started hspec hstarted) .EventDone

/-- The branch of a healthy input. -/
theorem Wires.runRule (hmachines : machines.Takes) (hentries : entries.Documented)
    (h : Wires s p) (hstarted : s.runtime.started = true) (hheater : HeaterReady s.heater) :
    Wires (if (!s.temperature.hasValue) = true then s.ran "runtime_provider_unavailable"
        else s.runRule machines) (p.runRule entries (answers s)) := by
  have hdriven := h.drive hmachines hentries hstarted .EventEvaluate
  have hacted : Wires (s.trigger machines .EventEvaluate).actOnRule
      ((p.drive entries .EventEvaluate).actOnRule (answers s)) := hdriven.actOnRule
  have hspec := actOnRule_spec (s := s.trigger machines .EventEvaluate) hheater
  have henabled : ((p.drive entries .EventEvaluate).actOnRule (answers s)).engine.isEnabled =
      (s.trigger machines .EventEvaluate).actOnRule.engine.isEnabled :=
    congrArg RuleEngine.isEnabled hacted.engine
  have hready : p.runRule entries (answers s) = if (!s.temperature.hasValue) = true then
      p.ran "runtime_provider_unavailable"
    else ((p.drive entries .EventEvaluate).actOnRule (answers s)).drive entries
      (if ((p.drive entries .EventEvaluate).actOnRule (answers s)).engine.isEnabled
        then .EventDone else .EventDisarm) := by
    obtain ⟨applied, events, _, rfl⟩ := h
    have hprovided : (!(provided applied events s).providers.inputReady ||
        !(answers s).inputReady || !(provided applied events s).providers.inputValue) =
          !s.temperature.hasValue := Bool.or_false _
    unfold ProvidedRuntime.System.runRule
    rw [hprovided]
  rw [hready, henabled]
  by_cases hvalue : (!s.temperature.hasValue) = true
  · rw [if_pos hvalue, if_pos hvalue]
    exact h.ran _
  · rw [if_neg hvalue, if_neg hvalue]
    exact hacted.drive hmachines hentries (acted_started hspec hstarted) _

/-- The callback of the task. -/
theorem Wires.executeEvaluation (hmachines : machines.Takes) (hentries : entries.Documented)
    (h : Wires s p) (hstarted : s.runtime.started = true) (hheater : HeaterReady s.heater) :
    Wires (s.executeEvaluation machines) (p.executeEvaluation entries (answers s)) := by
  obtain ⟨applied, events, hhandlers, rfl⟩ := h
  let begun : System α :=
    { s with runtime.pending := false, runtime.notes := s.runtime.notes ++ [Note.executed] }
  have hbegun : Wires begun { provided applied events s with runtime.pending := false } :=
    ⟨applied, events, hhandlers, rfl⟩
  have hcallback : (provided applied events s).executeEvaluation entries (answers s) =
      if (!s.engine.isEnabled) = true then
        (({ provided applied events s with runtime.pending := false } :
          ProvidedRuntime.System α).ran "rule_disabled").refreshEligibility entries
            s.temperature.health
      else if (!s.dependencyHealthy) = true then
        ({ provided applied events s with runtime.pending := false } :
          ProvidedRuntime.System α).runPolicy entries (answers s)
      else
        ({ provided applied events s with runtime.pending := false } :
          ProvidedRuntime.System α).runRule entries (answers s) := rfl
  rw [hcallback]
  unfold System.executeEvaluation
  by_cases hdisabled : (!s.engine.isEnabled) = true
  · rw [if_pos hdisabled]
    dsimp only
    rw [if_pos hdisabled]
    exact (hbegun.ran "rule_disabled").refresh hmachines hentries
  rw [if_neg hdisabled]
  dsimp only
  rw [if_neg hdisabled]
  by_cases hunhealthy : (!s.dependencyHealthy) = true
  · rw [if_pos hunhealthy]
    refine (congrArg (Wires · _) (if_pos hunhealthy)).mpr ?_
    have hnamed : Wires
        { begun with
          runtime.lastPolicyResult := actuatorFaultPolicyName s.runtime.faultPolicy }
        { provided applied events s with
          runtime.pending := false
          runtime.lastPolicyResult := actuatorFaultPolicyName s.runtime.faultPolicy } :=
      ⟨applied, events, hhandlers, rfl⟩
    unfold ProvidedRuntime.System.runPolicy
    dsimp only
    by_cases hsuspends : (resolveActuatorFaultPolicy s.runtime.faultPolicy
        s.heater.isOn).suspendRule = true
    · rw [if_pos hsuspends]
      refine (congrArg (Wires _) (if_pos hsuspends)).mpr ?_
      exact (hnamed.ran _).refresh hmachines hentries
    · rw [if_neg hsuspends]
      refine (congrArg (Wires _) (if_neg hsuspends)).mpr ?_
      exact hnamed.runPolicy hmachines hentries hstarted hheater _
  · rw [if_neg hunhealthy]
    refine (congrArg (Wires · _) (if_neg hunhealthy)).mpr ?_
    exact hbegun.runRule hmachines hentries hstarted hheater

end Evaluations

/-! ### What waits on the bus -/

section Queue

variable {bus : EventBus Handler} {s : System α}

/-- The sources of the events that wait are texts without a zero byte. -/
def Copied (bus : EventBus Handler) : Prop :=
  ∀ e ∈ bus.pending, cString e.source = e.source

/-- The source of an event in the queue ends at its zero byte. -/
theorem cString_copied (type : RuntimeEventType) (source : String) :
    cString (Event.copied type source).source = (Event.copied type source).source := by
  apply cString_eq_self
  intro c hc
  simp only [Event.copied, cString, String.toList_ofList] at hc
  simpa using List.mem_takeWhile_imp (List.mem_of_mem_take hc)

/-- A post copies its source. -/
theorem Copied.post (h : Copied bus) (type : RuntimeEventType) (source : String) :
    Copied (bus.post type source) := by
  intro e he
  rcases EventBus.mem_of_mem_post he with hold | rfl
  · exact h e hold
  · exact cString_copied type source

/-- Posts copy their sources. -/
theorem Copied.postAll (h : Copied bus) (events : List Event) : Copied (postAll events bus) := by
  unfold ControlLoop.postAll
  induction events generalizing bus with
  | nil => exact h
  | cons e events ih => exact ih (h.post e.type e.source)

/-- The posts of a transition copy their sources. -/
theorem Copied.transitionTo {σ : Type} [DecidableEq σ] (h : Copied bus) (id : String)
    (nextState : σ) (nextHealth : HealthState) (faultCode : String) (component : Component σ) :
    Copied (transitionTo id nextState nextHealth faultCode component bus).2 := by
  unfold RuntimeCore.transitionTo
  dsimp only
  split <;> split
  · exact (h.post _ _).post _ _
  · exact h.post _ _
  · exact h.post _ _
  · exact h

/-- A change of the input posts copies. -/
theorem Copied.setValue (h : Copied bus) (value : ArduinoJson.CFloat α)
    (input : VirtualInput α) : Copied (input.setValue value bus).2 := by
  unfold VirtualInput.setValue
  split
  · exact h
  · exact (h.transitionTo _ _ _ _ _).post _ _

/-- The posts of a recovery copy their sources. -/
theorem Copied.recover (h : Copied bus) (input : VirtualInput α) :
    Copied (input.recover bus).2 := by
  unfold VirtualInput.recover
  split
  · exact h.transitionTo _ _ _ _ _
  · exact h.transitionTo _ _ _ _ _

/-- The posts of the output copy their sources. -/
theorem Copied.applyDesired (h : Copied s.events) (desiredOn : Bool) :
    Copied (s.ruleApplyDesired desiredOn).1.events := by
  unfold System.ruleApplyDesired VirtualActuator.applyDesired
  split
  · exact h
  · exact h.transitionTo _ _ _ _ _

/-- The posts of the policy copy their sources. -/
theorem Copied.actOnPolicy (h : Copied s.events) (resolution : ActuatorFaultResolution) :
    Copied (s.actOnPolicy resolution).events := by
  have happlied := h.applyDesired resolution.desiredOn
  unfold System.actOnPolicy
  dsimp only
  generalize s.ruleApplyDesired resolution.desiredOn = taken at happlied ⊢
  obtain ⟨t, takes⟩ := taken
  by_cases hdesired : resolution.applyDesired = true
  · rw [if_pos hdesired]
    cases takes with
    | false => exact happlied
    | true => exact happlied
  rw [if_neg hdesired]
  split
  · exact h
  · exact h

/-- The posts of a run of the policy copy their sources. -/
theorem Copied.runPolicy (h : Copied s.events) (machines : Machines RuntimeState RuntimeEvent)
    (resolution : ActuatorFaultResolution) : Copied (s.runPolicy machines resolution).events :=
  Copied.actOnPolicy (s := s.trigger machines .EventEvaluate) h resolution

variable [LT α] [DecidableLT α]

/-- The posts of the rule copy their sources. -/
theorem Copied.actOnRule (h : Copied s.events) : Copied s.actOnRule.events := by
  have hposted : Copied (s.engine.evaluate s.temperature.value s.heater.isOn s.events).1.2 := by
    unfold RuleEngine.evaluate
    repeat' split
    all_goals first | exact h | exact h.post _ _
  unfold System.actOnRule
  dsimp only
  generalize s.engine.evaluate s.temperature.value s.heater.isOn s.events = evaluated
    at hposted ⊢
  obtain ⟨⟨engine, events⟩, error | ⟨desired, decision⟩⟩ := evaluated
  · exact hposted
  · dsimp only
    split
    · exact hposted
    · have happlied := Copied.applyDesired (s := { s with engine, events }) hposted desired
      generalize System.ruleApplyDesired desired { s with engine, events } = taken
        at happlied ⊢
      obtain ⟨t, takes⟩ := taken
      cases takes with
      | false => exact happlied
      | true => exact happlied

/-- What an evaluation posts is copied. -/
theorem Copied.executeEvaluation (h : Copied s.events)
    (machines : Machines RuntimeState RuntimeEvent) :
    Copied (s.executeEvaluation machines).events := by
  unfold System.executeEvaluation
  dsimp only
  split
  · rw [(refreshEligibility_kept machines _).events]
    exact h
  split
  · split
    · rw [(refreshEligibility_kept machines _).events]
      exact h
    · refine Copied.runPolicy ?_ machines _
      exact h
  split
  · exact h
  · refine Copied.actOnRule (s := System.trigger machines .EventEvaluate _) ?_
    exact h

end Queue

/-! ### Runs -/

section Runs

variable [LT α] [DecidableLT α]
variable {machines : Machines RuntimeState RuntimeEvent}
variable {entries : EntryMachines RuntimeState RuntimeEvent} {lib : NumberLibrary α}
variable {s t : System α} {start p : ProvidedRuntime.System α} {d : Device α}

/-- Calls of the runtime with providers lead to the runtime of the control loop. -/
def Follows (entries : EntryMachines RuntimeState RuntimeEvent)
    (start : ProvidedRuntime.System α) (s : System α) : Prop :=
  ∃ calls, Wires s (run (ProvidedRuntime.step entries) start calls)

/-- What changes nothing of the runtime is no call. -/
theorem Follows.silent (h : Follows entries start s) (hengine : t.engine = s.engine)
    (hruntime : t.runtime = s.runtime) (hhandlers : t.events.handlers = s.events.handlers) :
    Follows entries start t := by
  obtain ⟨calls, applied, events, hown, heq⟩ := h
  refine ⟨calls, applied, events, hown.trans hhandlers.symm, ?_⟩
  rw [heq, provided, provided, hengine, hruntime]

/-- One more call. -/
theorem Follows.call (h : Follows entries start s) (label : ProvidedRuntime.Label α)
    (hcall : ∀ p, Wires s p → Wires t (ProvidedRuntime.step entries p label)) :
    Follows entries start t := by
  obtain ⟨calls, hwires⟩ := h
  refine ⟨calls ++ [label], ?_⟩
  rw [run_append]
  exact hcall _ hwires

/-- A refresh is followed by calls of the provided runtime. -/
theorem Follows.refresh (hmachines : machines.Takes) (hentries : entries.Documented)
    (h : Follows entries start s) : Follows entries start (s.refreshEligibility machines) :=
  h.call (.refreshEligibility s.temperature.health) fun _ hwires =>
    hwires.refresh hmachines hentries

/-- A change of the fault policy is followed by its call. -/
theorem Follows.setFaultPolicy (hmachines : machines.Takes) (hentries : entries.Documented)
    (h : Follows entries start s) (policy : ActuatorFaultPolicy) :
    Follows entries start (s.setFaultPolicy machines policy) := by
  refine h.call (.setFaultPolicy s.temperature.health policy) ?_
  rintro _ ⟨applied, events, hhandlers, rfl⟩
  have hkept := refreshEligibility_kept machines { s with runtime.faultPolicy := policy }
  exact ⟨applied, events, hhandlers.trans (congrArg EventBus.handlers hkept.events.symm),
    provided_setFaultPolicy hmachines hentries applied events s policy⟩

/-- A request is followed by its call. -/
theorem Follows.request (hmachines : machines.Takes) (hentries : entries.Documented)
    (h : Follows entries start s) (reason : String) :
    Follows entries start (s.requestEvaluation machines reason).1 := by
  refine h.call (.requestEvaluation (answers s) reason) ?_
  rintro _ ⟨applied, events, hhandlers, rfl⟩
  have hkept := requestEvaluation_kept machines reason s
  refine ⟨applied, events, hhandlers.trans (by rw [hkept.events]), ?_⟩
  exact congrArg Prod.fst (provided_request hmachines hentries applied events s reason)

omit [LT α] [DecidableLT α] in
/-- An event leaves the bus to the components. -/
theorem handleEvent_events (machines : Machines RuntimeState RuntimeEvent) (event : Event)
    (s : System α) : (s.handleEvent machines event).events = s.events := by
  unfold System.handleEvent
  split
  · exact (requestEvaluation_kept machines _ s).events
  · rfl

/-- An event that is handled is followed by its call. -/
theorem Follows.event (hmachines : machines.Takes) (hentries : entries.Documented)
    (h : Follows entries start s) {event : Event} (hsource : cString event.source = event.source) :
    Follows entries start (s.handleEvent machines event) := by
  refine h.call (.event (answers s) event) ?_
  rintro _ ⟨applied, events, hhandlers, rfl⟩
  refine ⟨applied, events, hhandlers.trans (by rw [handleEvent_events]), ?_⟩
  exact provided_event hmachines hentries applied events s hsource

/-- The events that the main loop processes. -/
theorem Follows.process (hmachines : machines.Takes) (hentries : entries.Documented)
    (h : Follows entries start s) (hs : Working s) (hcopied : Copied s.events) (maxEvents : ℕ) :
    Follows entries start (process machines maxEvents s) ∧
      Copied (process machines maxEvents s).events := by
  refine (process_invariant hmachines
    (P := fun s => Follows entries start s ∧ Copied s.events) ?_ hs ⟨h, hcopied⟩ maxEvents).2
  rintro s event rest - ⟨hfollows, hwaiting⟩ hpop
  obtain ⟨hpending, hhandlers⟩ := EventBus.pending_of_pop hpop
  have hpopped : Follows entries start { s with events := rest } :=
    hfollows.silent rfl rfl hhandlers
  refine ⟨hpopped.event hmachines hentries ?_, ?_⟩
  · exact hwaiting event (by rw [hpending]; exact List.mem_cons_self)
  · rw [handleEvent_events]
    intro e he
    exact hwaiting e (by rw [hpending]; exact List.mem_cons_of_mem _ he)

/-- A pass of the scheduler. -/
theorem Follows.pass (hmachines : machines.Takes) (hentries : entries.Documented)
    (h : Follows entries start s) (hs : Working s) (hcopied : Copied s.events)
    (others : OtherPosts) :
    Follows entries start (pass machines others s) ∧
      Copied (pass machines others s).events := by
  let taken : System α :=
    { s with runtime.evaluationTask := (s.runtime.evaluationTask.pass true).1 }
  let passed : System α :=
    if (s.runtime.evaluationTask.pass true).2 then taken.executeEvaluation machines else taken
  have hpassed : Follows entries start passed ∧ Copied passed.events := by
    constructor
    · refine h.call (.pass true (answers s)) ?_
      rintro _ ⟨applied, events, hhandlers, rfl⟩
      have htaken : Wires taken (provided applied events taken) :=
        ⟨applied, events, hhandlers, rfl⟩
      have hcallback := htaken.executeEvaluation hmachines hentries hs.steady.started hs.heater
      change Wires passed (if (s.runtime.evaluationTask.pass true).2 then
        (provided applied events taken).executeEvaluation entries (answers taken)
        else provided applied events taken)
      by_cases hruns : (s.runtime.evaluationTask.pass true).2 = true
      · rw [if_pos hruns, show passed = taken.executeEvaluation machines from if_pos hruns]
        exact hcallback
      · rw [if_neg hruns, show passed = taken from if_neg hruns]
        exact htaken
    · by_cases hruns : (s.runtime.evaluationTask.pass true).2 = true
      · rw [show passed = taken.executeEvaluation machines from if_pos hruns]
        exact Copied.executeEvaluation (s := taken) hcopied machines
      · rw [show passed = taken from if_neg hruns]
        exact hcopied
  exact ⟨hpassed.1.silent rfl rfl (postAll_handlers _ _), hpassed.2.postAll others.events⟩

/-- An activation, whose bus stays as it is. -/
theorem Follows.activate (lib : NumberLibrary α) (hmachines : machines.Takes)
    (hentries : entries.Documented) (h : Follows entries start d.system) (raw : String)
    (revision : ℕ) :
    Follows entries start (activate machines lib raw revision d).system ∧
      (activate machines lib raw revision d).system.events = d.system.events := by
  unfold ControlLoop.activate activateDocument
  cases parseDocument lib raw with
  | error error => exact ⟨h, rfl⟩
  | ok parsed =>
    obtain ⟨found, parsedRevision⟩ := parsed
    dsimp only
    by_cases hrevision : parsedRevision ≠ revision
    · rw [if_pos hrevision]
      exact ⟨h, rfl⟩
    rw [if_neg hrevision]
    cases found with
    | none =>
      have hcleared : Follows entries start { d.system with engine := .clear } := by
        refine h.call .clear ?_
        rintro _ ⟨applied, events, hhandlers, rfl⟩
        exact ⟨applied, events, hhandlers, rfl⟩
      have hset := hcleared.setFaultPolicy hmachines hentries .SafeOff
      refine ⟨hset.refresh hmachines hentries, ?_⟩
      exact (refreshEligibility_kept machines _).events.trans
        (refreshEligibility_kept machines _).events
    | some ruleAndPolicy =>
      obtain ⟨rule, faultPolicy⟩ := ruleAndPolicy
      unfold applyParsed
      dsimp only
      cases hconfigured : d.system.engine.configure rule with
      | error error => exact ⟨h, rfl⟩
      | ok engine =>
        have hruled : Follows entries start { d.system with engine } := by
          refine h.call (.configure rule) ?_
          rintro _ ⟨applied, events, hhandlers, rfl⟩
          refine ⟨applied, events, hhandlers, ?_⟩
          have hown : (provided applied events d.system).engine.configure rule = .ok engine :=
            hconfigured
          simp only [ProvidedRuntime.step, hown]
          rfl
        have hset := hruled.setFaultPolicy hmachines hentries faultPolicy
        have hrefreshed := hset.refresh hmachines hentries
        refine ⟨hrefreshed.request hmachines hentries "config_activation", ?_⟩
        exact (requestEvaluation_kept machines _ _).events.trans
          ((refreshEligibility_kept machines _).events.trans
            (refreshEligibility_kept machines _).events)

/-- What every step of the main loop keeps. -/
structure Followed (entries : EntryMachines RuntimeState RuntimeEvent)
    (start : ProvidedRuntime.System α) (s : System α) : Prop where
  /-- The runtime is one with providers. -/
  follows : Follows entries start s
  /-- The system works. -/
  working : Working s
  /-- What waits on the bus has been copied there. -/
  copied : Copied s.events

/-- A change of the input is no call of the runtime. -/
theorem Followed.changeInput (h : Followed entries start s)
    {change : VirtualInput α → EventBus Handler → VirtualInput α × EventBus Handler}
    (hchange : Posts change) (hcopied : Copied (change s.temperature s.events).2) :
    Followed entries start (changeInput change s) :=
  ⟨h.follows.silent rfl rfl (hchange s.temperature s.events), working_changeInput hchange h.working,
    hcopied⟩

/-- The step lemma. -/
theorem step_followed (hmachines : machines.Takes) (hentries : entries.Documented)
    (d : Device α) (label : Label α) (h : Followed entries start d.system) :
    Followed entries start (step machines lib d label).system := by
  have hworking : Working (step machines lib d label).system :=
    step_working hmachines h.working label
  cases label with
  | loop others =>
    cases hphase : d.phase with
    | pass =>
      rw [step, hphase] at hworking ⊢
      obtain ⟨hfollows, hcopied⟩ :=
        h.follows.pass hmachines hentries h.working h.copied others
      exact ⟨hfollows, hworking, hcopied⟩
    | process =>
      rw [step, hphase] at hworking ⊢
      obtain ⟨hfollows, hcopied⟩ := h.follows.process hmachines hentries h.working h.copied 8
      exact ⟨hfollows, hworking, hcopied⟩
  | setValue value => exact h.changeInput (posts_setValue value) (h.copied.setValue value _)
  | injectFault faultCode =>
    exact h.changeInput (posts_injectFault faultCode) (h.copied.transitionTo _ _ _ _ _)
  | recover => exact h.changeInput posts_recover (h.copied.recover _)
  | disable => exact h.changeInput posts_disable (h.copied.transitionTo _ _ _ _ _)
  | activate raw revision =>
    obtain ⟨hfollows, hevents⟩ := h.follows.activate lib hmachines hentries raw revision
    exact ⟨hfollows, hworking, hevents.symm ▸ h.copied⟩

end Runs

section Wired

variable [LT α] [DecidableLT α]
variable {entries : EntryMachines RuntimeState RuntimeEvent}

/-- The bus once the handler of `main` has subscribed. -/
def subscribed : EventBus Handler :=
  (EventBus.subscribe Handler.handleRuntimeEvent {}).1

/-- The runtime with its providers before `begin`. -/
def configured : ProvidedRuntime.System α where
  inputSourceId := TEMPERATURE_ID
  events := subscribed
  engine := .clear

omit [LT α] [DecidableLT α] in
/-- What the components of `main` post at first is copied. -/
theorem wired_copied (machines : Machines RuntimeState RuntimeEvent) :
    Copied (wired (α := α) machines).events := by
  have hempty : Copied
      (System.begin machines { engine := (.clear : RuleEngine α), events := subscribed }).events :=
    fun _ he => absurd he (List.not_mem_nil)
  have hheater := hempty.transitionTo HEATER_ID (VirtualActuator.desiredState false) .Ok ""
    ({} : VirtualActuator).component
  exact hheater.transitionTo "virtual.schedule_output" (VirtualActuator.desiredState false) .Ok ""
    ({} : VirtualActuator).component

/-- Before the first configuration the runtime has begun. -/
theorem wired_followed (hentries : entries.Documented) :
    Followed entries configured (wired (α := α) entries.running) where
  follows := by
    let s : System α := { engine := .clear, events := subscribed }
    have hbegun : Follows entries configured (s.begin entries.running) :=
      ⟨[.begin s.temperature.health],
        provided_begin hentries.takes hentries [] subscribed s rfl⟩
    exact hbegun.silent rfl rfl rfl
  working := wired_working entries.running
  copied := wired_copied entries.running

/-- The device is followed from its setup. -/
theorem setup_followed (hentries : entries.Documented) (lib : NumberLibrary α) (raw : String)
    (revision : ℕ) :
    Followed entries configured (setup entries.running lib raw revision).system := by
  obtain ⟨hfollows, hevents⟩ := (wired_followed hentries).follows.activate
    (d := { system := wired entries.running }) lib hentries.takes hentries raw revision
  refine ⟨hfollows.silent rfl rfl EventBus.post_handlers,
    (setup_working hentries.takes raw revision).1, Copied.post ?_ _ _⟩
  rw [hevents]
  exact wired_copied entries.running

/-- In every run of the control loop its runtime is where calls of the runtime with
providers lead: what is proved of every run of those holds in the control loop. -/
theorem wired_run (hentries : entries.Documented) (lib : NumberLibrary α) (raw : String)
    (revision : ℕ) (labels : List (ControlLoop.Label α)) :
    Follows entries configured
      (run (step entries.running lib) (setup entries.running lib raw revision) labels).system :=
  have hrun := run_invariant (I := fun d : Device α => Followed entries configured d.system)
    (fun d label h => step_followed hentries.takes hentries d label h)
    (setup_followed hentries lib raw revision) labels
  hrun.follows

/-- The books of the runtime are in balance in the control loop: each evaluation that was
scheduled has ended once, was cancelled once, or is the one that the task waits with. -/
theorem wired_balanced (hentries : entries.Documented) (lib : NumberLibrary α) (raw : String)
    (revision : ℕ) (labels : List (ControlLoop.Label α)) :
    let s :=
      (run (step entries.running lib) (setup entries.running lib raw revision) labels).system
    ∃ t : RuleAccounting.Tallied α, Wires s t.system ∧ t.counters = .ofLog t.log ∧
      t.log.count .scheduled = t.log.countP RuleAccounting.Entry.isEnd +
        t.log.count .cancelled + s.runtime.evaluationTask.pending := by
  intro s
  obtain ⟨calls, hwires⟩ := wired_run hentries lib raw revision labels
  let t := run (RuleAccounting.tally entries) { system := configured (α := α) } calls
  have hsystem : t.system = run (ProvidedRuntime.step entries) configured calls :=
    view_run (I := fun _ : RuleAccounting.Tallied α => True) (fun _ _ _ => trivial)
      (fun u label _ => RuleAccounting.system_tally u label) trivial calls
  have hcounters : t.counters = .ofLog t.log :=
    run_invariant (I := fun u : RuleAccounting.Tallied α => u.counters = .ofLog u.log)
      (fun u label hu => (RuleAccounting.books_tally u label).exact hu) rfl calls
  have hbalanced : RuleAccounting.Balanced 0 0 t :=
    run_invariant RuleAccounting.balanced_tally ⟨⟨rfl, .inr rfl⟩, rfl, rfl⟩ calls
  rw [← hsystem] at hwires
  refine ⟨t, hwires, hcounters, ?_⟩
  rw [← hwires.evaluationTask]
  exact hbalanced.balance

end Wired

end ProjEsp32.RuntimeWiring
