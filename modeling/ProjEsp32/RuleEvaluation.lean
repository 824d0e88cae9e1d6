import ProjEsp32.ArduinoJson
import ProjEsp32.CheckedResult
import ProjEsp32.ConfigurationDocument
import ProjEsp32.RuntimeCore
import Mathlib.Algebra.GroupWithZero.Nat
import Mathlib.Order.Defs.PartialOrder

/-!
# Rules and fault policies

A hysteresis rule computes the desired state of an output from a valid input;
a fault policy says what becomes of the output while the input is not healthy.
The values are compared in any order.
-/

namespace ProjEsp32.RuleEvaluation

open ArduinoJson ArduinoText CheckedResult RuntimeCore

variable {α H : Type}

/-- What the output does while a dependency is unhealthy. -/
inductive ActuatorFaultPolicy where
  | SafeOff
  | SafeOn
  | KeepLastState
  | DisableRule
  | AlarmOnly
  deriving DecidableEq

/-- The name of a policy in the configuration. -/
def actuatorFaultPolicyName : ActuatorFaultPolicy → String
  | .SafeOff => "SAFE_OFF"
  | .SafeOn => "SAFE_ON"
  | .KeepLastState => "KEEP_LAST_STATE"
  | .DisableRule => "DISABLE_RULE"
  | .AlarmOnly => "ALARM_ONLY"

/-- `parseActuatorFaultPolicy`. -/
def parseActuatorFaultPolicy (value : String) : Option ActuatorFaultPolicy :=
  let normalized := toUpperCase (trim value)
  if normalized = "SAFE_OFF" then some .SafeOff
  else if normalized = "SAFE_ON" then some .SafeOn
  else if normalized = "KEEP_LAST_STATE" then some .KeepLastState
  else if normalized = "DISABLE_RULE" then some .DisableRule
  else if normalized = "ALARM_ONLY" then some .AlarmOnly
  else none

/-- A text is read as the policy whose name it is, in capitals and without the white
space around it. -/
theorem parseActuatorFaultPolicy_eq_some {value : String} {policy : ActuatorFaultPolicy} :
    parseActuatorFaultPolicy value = some policy ↔
      actuatorFaultPolicyName policy = toUpperCase (trim value) := by
  unfold parseActuatorFaultPolicy
  dsimp only
  generalize toUpperCase (trim value) = normalized
  constructor
  · intro h
    split_ifs at h with hoff hon hkeep hdisable halarm
    all_goals
      cases h
      exact Eq.symm ‹_›
  · rintro rfl
    cases policy with
    | SafeOff => rfl
    | SafeOn => rfl
    | KeepLastState => rfl
    | DisableRule => rfl
    | AlarmOnly => rfl

/-- What a policy has decided. -/
structure ActuatorFaultResolution where
  /-- The output is to be set. -/
  applyDesired : Bool := false
  /-- The state that it is to be set to. -/
  desiredOn : Bool
  /-- The rule is suspended. -/
  suspendRule : Bool := false
  /-- Nothing is done but to raise an alarm. -/
  alarmOnly : Bool := false
  deriving DecidableEq

/-- `resolveActuatorFaultPolicy`. -/
def resolveActuatorFaultPolicy (policy : ActuatorFaultPolicy) (currentOn : Bool) :
    ActuatorFaultResolution :=
  match policy with
  | .SafeOff => { desiredOn := false, applyDesired := true }
  | .SafeOn => { desiredOn := true, applyDesired := true }
  | .KeepLastState => { desiredOn := currentOn }
  | .DisableRule => { desiredOn := currentOn, suspendRule := true }
  | .AlarmOnly => { desiredOn := currentOn, alarmOnly := true }

/-- What the rule has decided. -/
inductive RuleDecision where
  | None
  | TurnOff
  | TurnOn
  | Hold
  | Disabled
  deriving DecidableEq

/-- The name of a decision in the diagnostics. -/
def decisionName : RuleDecision → String
  | .None => "NONE"
  | .TurnOff => "TURN_OFF"
  | .TurnOn => "TURN_ON"
  | .Hold => "HOLD"
  | .Disabled => "DISABLED"

/-- A rule that turns an output on below one threshold and off above another. -/
structure HysteresisRule (α : Type) [Zero α] where
  /-- The identifier of the rule. -/
  id : String := ""
  /-- It is to be evaluated at all. -/
  enabled : Bool := false
  /-- The output goes on below this. -/
  onBelow : CFloat α := .finite 0
  /-- And off above this. -/
  offAbove : CFloat α := .finite 0

/-- The variables of the engine, without those that only its status shows. -/
structure RuleEngine (α : Type) [Zero α] where
  /-- The rule. -/
  rule : HysteresisRule α := {}
  /-- There is one. -/
  configured : Bool := false
  /-- The last decision. -/
  lastDecision : RuleDecision := .None
  /-- Why the last call failed. -/
  lastError : String := ""

/-- `<` of two floating point values. Where one of them is not finite the source
has refused it before. -/
def lt [LT α] [DecidableLT α] : CFloat α → CFloat α → Bool
  | .finite a, .finite b => a < b
  | _, _ => false

namespace RuleEngine

variable [Zero α]

/-- `enabled`. -/
def isEnabled (engine : RuleEngine α) : Bool := engine.configured && engine.rule.enabled

/-- `validId` of the engine, the same test as for configuration entries. -/
def validId (id : String) : Bool := ConfigurationDocument.validId id

/-- `configure`. -/
def configure [LT α] [DecidableLT α] (rule : HysteresisRule α) (engine : RuleEngine α) :
    Except String (RuleEngine α) := do
  refuseIf (!validId rule.id) "rule_id_invalid"
  refuseIf (!rule.onBelow.isfinite || !rule.offAbove.isfinite) "rule_threshold_invalid"
  refuseIf (!lt rule.onBelow rule.offAbove) "rule_hysteresis_invalid"
  return { engine with
    rule := rule, configured := true, lastError := ""
    lastDecision := if rule.enabled then .None else .Disabled }

/-- `clear`. -/
def clear : RuleEngine α := {}

/-- The decision of an enabled rule for a finite input. -/
def decision [LT α] [DecidableLT α] (rule : HysteresisRule α) (inputValue : CFloat α)
    (currentOutput : Bool) : Bool × RuleDecision :=
  if lt inputValue rule.onBelow then (true, if currentOutput then .Hold else .TurnOn)
  else if lt rule.offAbove inputValue then (false, if currentOutput then .TurnOff else .Hold)
  else (currentOutput, .Hold)

/-- `evaluate`: the desired output and the decision, or an error. Only a decision
of an enabled rule is posted. -/
def evaluate [LT α] [DecidableLT α] (inputValue : CFloat α) (currentOutput : Bool)
    (engine : RuleEngine α) (bus : EventBus H) :
    (RuleEngine α × EventBus H) × Except String (Bool × RuleDecision) :=
  if !engine.configured then
    (({ engine with lastError := "rule_not_configured" }, bus), .error "rule_not_configured")
  else if !engine.rule.enabled then
    (({ engine with lastDecision := .Disabled, lastError := "" }, bus),
      .ok (currentOutput, .Disabled))
  else if !inputValue.isfinite then
    (({ engine with lastError := "rule_input_invalid" }, bus), .error "rule_input_invalid")
  else
    let decided := decision engine.rule inputValue currentOutput
    (({ engine with lastDecision := decided.2, lastError := "" },
      bus.post .RuleEvaluated engine.rule.id), .ok decided)

/-- What `configure` accepts has a valid identifier. -/
theorem configure_rule [LT α] [DecidableLT α] {rule : HysteresisRule α}
    {engine configured : RuleEngine α} (h : engine.configure rule = .ok configured) :
    configured.rule = rule ∧ validId rule.id = true := by
  simp only [configure, bind_eq_ok, refuseIf_eq_ok] at h
  obtain ⟨_, hid, _, _, _, _, hconfigured⟩ := h
  cases hconfigured
  exact ⟨rfl, by simpa using hid⟩

/-- Whatever it evaluates, the engine keeps its rule. -/
theorem evaluate_rule [LT α] [DecidableLT α] (inputValue : CFloat α) (currentOutput : Bool)
    (engine : RuleEngine α) (bus : EventBus H) :
    (evaluate inputValue currentOutput engine bus).1.1.rule = engine.rule ∧
      (evaluate inputValue currentOutput engine bus).1.1.configured = engine.configured := by
  unfold evaluate
  split
  · exact ⟨rfl, rfl⟩
  · split
    · exact ⟨rfl, rfl⟩
    · split <;> exact ⟨rfl, rfl⟩

end RuleEngine

end ProjEsp32.RuleEvaluation
