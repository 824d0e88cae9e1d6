import ProjEsp32.ComponentReports

/-!
# The components as the rules see them

The rule system knows of a component its state, the state of its health and its fault code.
Without the times and the error counts, and on the bus without times and values, each call
of a component is the call that the rule system knows: the two descriptions of the virtual
input and of the actuators stay in step over every run of such calls.
-/

namespace ProjEsp32.ComponentViews

open ArduinoJson ComponentReports EventDispatch TransitionRuns VirtualComponents
open RuntimeCore (HealthState)

variable {H S σ α : Type}

/-! ### One component -/

section Components

/-- A component without its times and its error count. -/
def core (c : Component σ) : RuntimeCore.Component σ where
  state := c.state
  health := { state := c.health.state, faultCode := c.health.faultCode }

/-- Posts that go to the bus, in order. -/
def sent (posts : List Post) (bus : EventBus H) : EventBus H :=
  posts.foldl (fun bus post => (bus.post post).1) bus

/-- Posts are sent one after the other. -/
theorem sent_append (first second : List Post) (bus : EventBus H) :
    sent (first ++ second) bus = sent second (sent first bus) :=
  List.foldl_append

/-- The platform sends the posts of a call to its bus. -/
theorem bus_send (posts : List Post) (p : Platform H S) :
    (p.send posts).world.bus = sent posts p.world.bus := by
  change (posts.foldl (fun w post => (World.post post w).1) p.world).bus = sent posts p.world.bus
  generalize p.world = w
  induction posts generalizing w with
  | nil => rfl
  | cons post posts ih => exact ih (w.post post).1

variable {bus : EventBus H} {coreBus : RuntimeCore.EventBus H}

/-- A health after a change is the one that was asked for, with its fault code. -/
theorem core_healthAfter (kind : Kind σ) (now : ℕ) (nextState : σ) (nextHealth : HealthState)
    (faultCode : String) (c : Component σ) :
    core { state := nextState, health := c.healthAfter kind now nextHealth faultCode } =
      { state := nextState, health := { state := nextHealth, faultCode } } := by
  unfold core Component.healthAfter
  dsimp only
  split
  · rfl
  split
  · rfl
  · rfl

/-- A new state is posted on both buses. -/
theorem forgets_state [DecidableEq σ] (h : Forgets bus coreBus) (kind : Kind σ) (now : ℕ)
    (nextState : σ) (c : Component σ) :
    Forgets
      (sent (if nextState != c.state then
        [⟨ComponentStateChanged, some kind.id, kind.stateValue nextState, now % 2^32⟩] else [])
        bus)
      (if nextState ≠ c.state then coreBus.post .ComponentStateChanged kind.id else coreBus) := by
  by_cases hstate : nextState = c.state
  · rw [if_neg (not_not.mpr hstate), if_neg (by simpa using hstate)]
    exact h
  · rw [if_pos hstate, if_pos (by simpa using hstate)]
    exact h.post .ComponentStateChanged kind.id (kind.stateValue nextState) (now % 2^32)

/-- And so is a new health. -/
theorem forgets_health (h : Forgets bus coreBus) (kind : Kind σ) (now : ℕ)
    (nextHealth : HealthState) (nextFault : String) (c : Component σ) :
    Forgets
      (sent (if nextHealth != c.health.state || nextFault != c.health.faultCode then
        [⟨ComponentHealthChanged, some kind.id, healthValue nextHealth, now % 2^32⟩] else [])
        bus)
      (if nextHealth ≠ c.health.state ∨ nextFault ≠ c.health.faultCode then
        coreBus.post .ComponentHealthChanged kind.id else coreBus) := by
  have hchanged : (nextHealth != c.health.state || nextFault != c.health.faultCode) = true ↔
      nextHealth ≠ c.health.state ∨ nextFault ≠ c.health.faultCode := by
    rw [Bool.or_eq_true, bne_iff_ne, bne_iff_ne]
  by_cases hnew : nextHealth ≠ c.health.state ∨ nextFault ≠ c.health.faultCode
  · rw [if_pos hnew, if_pos (hchanged.mpr hnew)]
    exact h.post .ComponentHealthChanged kind.id (healthValue nextHealth) (now % 2^32)
  · rw [if_neg hnew, if_neg (fun hsame => hnew (hchanged.mp hsame))]
    exact h

/-- `transitionTo` is the transition that the rule system knows. -/
theorem transitionTo_core [DecidableEq σ] (h : Forgets bus coreBus) (kind : Kind σ) (now : ℕ)
    (nextState : σ) (nextHealth : HealthState) (faultCode : String) (c : Component σ) :
    core (c.transitionTo kind now nextState nextHealth faultCode).1 =
        (RuntimeCore.transitionTo kind.id nextState nextHealth faultCode (core c) coreBus).1 ∧
      Forgets (sent (c.transitionTo kind now nextState nextHealth faultCode).2 bus)
        (RuntimeCore.transitionTo kind.id nextState nextHealth faultCode (core c) coreBus).2 := by
  refine ⟨core_healthAfter kind now nextState nextHealth (ArduinoText.cString faultCode) c, ?_⟩
  unfold Component.transitionTo Component.posts
  dsimp only
  rw [sent_append]
  exact forgets_health (forgets_state h kind now nextState c) kind now nextHealth
    (ArduinoText.cString faultCode) c

end Components

/-! ### The input and the actuators -/

/-- The components and the bus, as the rule system has them. -/
structure Seen (α H : Type) [Zero α] where
  /-- The virtual input, with its value. -/
  input : VirtualInput α := {}
  /-- The actuators. -/
  outputs : Output → VirtualActuator := fun _ => {}
  /-- The bus without times and values. -/
  bus : RuntimeCore.EventBus H := {}

variable [Zero α]

/-- The platform is what the rule system sees of it. -/
structure Sees (p : Platform H S) (seen : Seen α H) : Prop where
  /-- The component of the input. -/
  component : seen.input.component = core p.temperature.component
  /-- The input has a value. -/
  hasValue : seen.input.hasValue = p.temperature.hasValue
  /-- The components of the actuators. -/
  outputs : ∀ output, (seen.outputs output).component = core (p.outputs output)
  /-- The bus. -/
  bus : Forgets p.world.bus seen.bus

variable {p : Platform H S} {seen : Seen α H}

namespace Seen

/-- A call of the input. -/
def onInput (call : VirtualInput α → RuntimeCore.EventBus H →
    VirtualInput α × RuntimeCore.EventBus H) (seen : Seen α H) : Seen α H :=
  let changed := call seen.input seen.bus
  { seen with input := changed.1, bus := changed.2 }

/-- A call of an actuator. -/
def onOutput (output : Output) (call : VirtualActuator → RuntimeCore.EventBus H →
    VirtualActuator × RuntimeCore.EventBus H) (seen : Seen α H) : Seen α H :=
  let changed := call (seen.outputs output) seen.bus
  { seen with outputs := Function.update seen.outputs output changed.1, bus := changed.2 }

end Seen

/-- A transition of the input, whatever value it has got before. -/
theorem Sees.input (h : Sees p seen) (now : ℕ) (nextState : VirtualInput.State)
    (nextHealth : HealthState) (faultCode : String) (input : VirtualInput α)
    (hcomponent : input.component = seen.input.component) :
    Sees (p.setInput (Input.transitionTo now nextState nextHealth faultCode
        { p.temperature with hasValue := input.hasValue }))
      (seen.onInput fun _ bus => input.transitionTo nextState nextHealth faultCode bus) := by
  obtain ⟨hcore, hforgets⟩ := transitionTo_core h.bus Input.kind now nextState nextHealth
    faultCode p.temperature.component
  rw [← h.component, ← hcomponent] at hcore hforgets
  refine ⟨hcore.symm, rfl, h.outputs, ?_⟩
  rw [Platform.setInput, bus_send]
  exact hforgets

/-- Both models see an injected fault alike. -/
theorem Sees.injectFault (h : Sees p seen) (now : ℕ) (faultCode : String) :
    Sees (p.setInput (p.temperature.injectFault now faultCode))
      (seen.onInput (VirtualInput.injectFault faultCode)) := by
  have hfault := h.input now .Fault .Fault
    (if (ArduinoText.trim (ArduinoText.cString faultCode)).length == 0 then "virtual_fault"
      else ArduinoText.trim (ArduinoText.cString faultCode)) seen.input rfl
  rw [h.hasValue] at hfault
  exact hfault

/-- Both models see a recovery alike. -/
theorem Sees.recover (h : Sees p seen) (now : ℕ) :
    Sees (p.setInput (p.temperature.recover now)) (seen.onInput VirtualInput.recover) := by
  have hready := h.input now .Ready .Ok "" seen.input rfl
  have hdisabled := h.input now .Disabled .Disabled "" seen.input rfl
  rw [h.hasValue] at hready hdisabled
  unfold Input.recover
  by_cases hvalue : p.temperature.hasValue = true
  · have hcall : seen.onInput VirtualInput.recover =
        seen.onInput fun _ bus => seen.input.transitionTo .Ready .Ok "" bus := by
      unfold Seen.onInput VirtualInput.recover
      rw [if_pos (h.hasValue.trans hvalue)]
    rw [if_pos hvalue, hcall]
    exact hready
  · have hcall : seen.onInput VirtualInput.recover =
        seen.onInput fun _ bus => seen.input.transitionTo .Disabled .Disabled "" bus := by
      unfold Seen.onInput VirtualInput.recover
      rw [if_neg (fun hsame => hvalue (h.hasValue.symm.trans hsame))]
    rw [if_neg hvalue, hcall]
    exact hdisabled

/-- Both models see a disabled input alike. -/
theorem Sees.disableInput (h : Sees p seen) (now : ℕ) :
    Sees (p.setInput (p.temperature.disable now)) (seen.onInput VirtualInput.disable) :=
  h.input now .Disabled .Disabled "" { seen.input with hasValue := false } rfl

/-- A value is posted after the transition to it; one that is not finite is refused. -/
theorem Sees.setValue (h : Sees p seen) (now : ℕ) (value : CFloat α) (milliValue : ℤ) :
    Sees (p.setInput
        (p.temperature.setValue now (if value.isfinite then some milliValue else none)))
      (seen.onInput (VirtualInput.setValue value)) := by
  unfold Seen.onInput VirtualInput.setValue
  cases hfinite : value.isfinite with
  | false =>
    refine ⟨h.component, h.hasValue, h.outputs, ?_⟩
    exact h.bus
  | true =>
    have hready := h.input now .Ready .Ok "" { seen.input with value, hasValue := true } rfl
    refine ⟨hready.component, hready.hasValue, h.outputs, ?_⟩
    have hposted := hready.bus.post .InputValueChanged Input.kind.id milliValue (now % 2^32)
    rw [Platform.setInput, bus_send] at hposted ⊢
    change Forgets (sent ((Input.transitionTo now .Ready .Ok ""
      { p.temperature with hasValue := true }).2 ++ [_]) p.world.bus) _
    rw [sent_append]
    exact hposted

/-- A transition of an actuator. -/
theorem Sees.output (h : Sees p seen) (output : Output) (now : ℕ)
    (nextState : VirtualActuator.State) (nextHealth : HealthState) (faultCode : String) :
    Sees (p.setOutput output
        (Actuator.transitionTo output now nextState nextHealth faultCode (p.outputs output)))
      (seen.onOutput output
        (VirtualActuator.transitionTo (Actuator.kind output).id nextState nextHealth
          faultCode)) := by
  obtain ⟨hcore, hforgets⟩ := transitionTo_core h.bus (Actuator.kind output) now nextState
    nextHealth faultCode (p.outputs output)
  rw [← h.outputs output] at hcore hforgets
  refine ⟨h.component, h.hasValue, fun other => ?_, ?_⟩
  · by_cases hsame : other = output
    · subst hsame
      simp only [Seen.onOutput, Platform.setOutput, Platform.send, Function.update_self]
      exact hcore.symm
    · simp only [Seen.onOutput, Platform.setOutput, Platform.send,
        Function.update_of_ne hsame]
      exact h.outputs other
  · rw [Platform.setOutput, bus_send]
    exact hforgets

/-- An actuator that is disabled refuses what is desired of it. -/
theorem Sees.applyDesired (h : Sees p seen) (output : Output) (now : ℕ) (desiredOn : Bool) :
    Sees (p.setOutput output
        (Actuator.applyDesired output now desiredOn (p.outputs output)))
      (seen.onOutput output fun actuator bus =>
        (actuator.applyDesired (Actuator.kind output).id desiredOn bus).1) := by
  have hstate : (seen.outputs output).component.state = (p.outputs output).state := by
    rw [h.outputs]
    rfl
  unfold Actuator.applyDesired Seen.onOutput VirtualActuator.applyDesired VirtualActuator.isEnabled
  dsimp only
  by_cases hdisabled : (p.outputs output).state = .Disabled
  · have hrefused : (!(seen.outputs output).component.state != .Disabled) = true := by
      rw [hstate, hdisabled]
      rfl
    rw [if_pos hdisabled, if_pos hrefused]
    refine ⟨h.component, h.hasValue, fun other => ?_, h.bus⟩
    simp only [Platform.setOutput, Platform.send, Function.update_eq_self]
    exact h.outputs other
  · have htaken : ¬(!(seen.outputs output).component.state != .Disabled) = true := by
      rw [hstate]
      simpa using hdisabled
    rw [if_neg hdisabled, if_neg htaken]
    exact h.output output now (Actuator.desired desiredOn) .Ok ""

/-! ### Runs -/

/-- A call that the rule system sees, with the time and the value that it does not see. -/
inductive Call (α : Type) where
  /-- `setValue`, with the value in thousandths. -/
  | setValue (now : ℕ) (value : CFloat α) (milliValue : ℤ)
  /-- `injectFault`. -/
  | injectFault (now : ℕ) (faultCode : String)
  /-- `recover`. -/
  | recover (now : ℕ)
  /-- `disable` of the input. -/
  | disableInput (now : ℕ)
  /-- `enable` of an actuator. -/
  | enable (output : Output) (now : ℕ) (initialOn : Bool)
  /-- `applyDesired` of an actuator. -/
  | applyDesired (output : Output) (now : ℕ) (desiredOn : Bool)
  /-- A decision of the rule engine. -/
  | ruleEvaluated (now : ℕ) (id : String) (decision : ℤ)

/-- The call on the platform. -/
def Call.label : Call α → Label H
  | .setValue now value milliValue =>
    .setValue now (if value.isfinite then some milliValue else none)
  | .injectFault now faultCode => .injectFault now faultCode
  | .recover now => .recover now
  | .disableInput now => .disableInput now
  | .enable output now initialOn => .enable output now initialOn
  | .applyDesired output now desiredOn => .applyDesired output now desiredOn
  | .ruleEvaluated now id decision => .ruleEvaluated now id decision

/-- The call as the rule system has it. -/
def see (seen : Seen α H) : Call α → Seen α H
  | .setValue _ value _ => seen.onInput (VirtualInput.setValue value)
  | .injectFault _ faultCode => seen.onInput (VirtualInput.injectFault faultCode)
  | .recover _ => seen.onInput VirtualInput.recover
  | .disableInput _ => seen.onInput VirtualInput.disable
  | .enable output _ initialOn =>
    seen.onOutput output (VirtualActuator.enable (Actuator.kind output).id initialOn)
  | .applyDesired output _ desiredOn =>
    seen.onOutput output fun actuator bus =>
      (actuator.applyDesired (Actuator.kind output).id desiredOn bus).1
  | .ruleEvaluated _ id _ => { seen with bus := seen.bus.post .RuleEvaluated id }

section Runs

variable [DecidableEq H]

/-- The step lemma: each call is the call that the rule system has. -/
theorem step_sees (machines : MachineEntries.EntryMachines HealthSupervisor.SupervisorState
      HealthSupervisor.EventId) (react : H → Event → S → S) (h : Sees p seen) (call : Call α) :
    Sees (step machines react p call.label) (see seen call) := by
  cases call with
  | setValue now value milliValue => exact h.setValue now value milliValue
  | injectFault now faultCode => exact h.injectFault now faultCode
  | recover now => exact h.recover now
  | disableInput now => exact h.disableInput now
  | enable output now initialOn =>
    exact h.output output now (Actuator.desired initialOn) .Ok ""
  | applyDesired output now desiredOn => exact h.applyDesired output now desiredOn
  | ruleEvaluated now id decision =>
    refine ⟨h.component, h.hasValue, h.outputs, ?_⟩
    exact h.bus.post .RuleEvaluated id decision (now % 2^32)

/-- Both models see a run alike. -/
theorem sees_run (machines : MachineEntries.EntryMachines HealthSupervisor.SupervisorState
      HealthSupervisor.EventId) (react : H → Event → S → S) (h : Sees p seen)
    (calls : List (Call α)) :
    Sees (run (step machines react) p (calls.map Call.label)) (run see seen calls) := by
  induction calls generalizing p seen with
  | nil => exact h
  | cons call calls ih =>
    rw [List.map_cons, run_cons, run_cons]
    exact ih (step_sees machines react h call)

omit [DecidableEq H] in
/-- At first there is nothing to forget. -/
theorem boot_sees (state : S) : Sees (boot state : Platform H S) ({} : Seen α H) where
  component := rfl
  hasValue := rfl
  outputs _ := rfl
  bus := ⟨rfl, rfl, rfl⟩

/-- Over every run of such calls the components that report their times and the components
of the rule system stay in step. -/
theorem views_run (machines : MachineEntries.EntryMachines HealthSupervisor.SupervisorState
      HealthSupervisor.EventId) (react : H → Event → S → S) (state : S) (calls : List (Call α)) :
    Sees (run (step machines react) (boot state) (calls.map Call.label))
      (run see ({} : Seen α H) calls) :=
  sees_run machines react (boot_sees state) calls

end Runs

end ProjEsp32.ComponentViews
