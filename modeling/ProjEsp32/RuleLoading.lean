import ProjEsp32.RuleExecution

/-!
# Loading the persisted rule

An activation of a configuration parses its one rule, configures the engine and
the fault policy, and asks for an evaluation.
-/

namespace ProjEsp32.RuleLoading

open ArduinoJson CheckedResult MachineLibrary RuleEvaluation RuleExecution

variable {α : Type} [Zero α] [LT α] [DecidableLT α]

/-- The capacity that a document is read with. -/
def JSON_CAPACITY : ℕ := 4096

/-- The JSON library with its conversion of numbers, `as<float>()`. -/
structure NumberLibrary (α : Type) extends JsonLibrary α where
  /-- `as<float>()` of a value. -/
  asFloat : Json α → CFloat α

/-- `supportedNumber`: any number is one. -/
def supportedNumber : Json α → Bool
  | .int _ => true
  | .float _ => true
  | _ => false

/-- The fault policy of a rule: `SAFE_OFF` when it names none. -/
def parseFaultPolicy (object : Json α) : Except String ActuatorFaultPolicy :=
  if object.containsKey "fault_policy" then do
    refuseIf (!(object.member "fault_policy").isCStr) "persisted_rule_fault_policy_invalid"
    orRefuse (parseActuatorFaultPolicy ((object.member "fault_policy").orCStr ""))
      "persisted_rule_fault_policy_unsupported"
  else return .SafeOff

/-- The rule of an entry. -/
def parseRule (lib : NumberLibrary α) (object : Json α) :
    Except String (HysteresisRule α × ActuatorFaultPolicy) := do
  refuseIf ((object.member "type").orCStr "" != "hysteresis") "persisted_rule_type_unsupported"
  refuseIf ((object.member "input").orCStr "" != "virtual.temperature")
    "persisted_rule_input_unsupported"
  refuseIf ((object.member "output").orCStr "" != "virtual.heater")
    "persisted_rule_output_unsupported"
  refuseIf (!supportedNumber (object.member "on_below")) "persisted_rule_on_below_invalid"
  refuseIf (!supportedNumber (object.member "off_above")) "persisted_rule_off_above_invalid"
  refuseIf (object.containsKey "enabled" && !(object.member "enabled").isBool)
    "persisted_rule_enabled_invalid"
  let faultPolicy ← parseFaultPolicy object
  let rule : HysteresisRule α :=
    { id := (object.member "id").orCStr ""
      enabled := (object.member "enabled").orBool true
      onBelow := lib.asFloat (object.member "on_below")
      offAbove := lib.asFloat (object.member "off_above") }
  refuseIf (!rule.onBelow.isfinite || !rule.offAbove.isfinite || !lt rule.onBelow rule.offAbove)
    "persisted_rule_hysteresis_invalid"
  refuseIf (!ConfigurationDocument.validId rule.id) "rule_id_invalid"
  return (rule, faultPolicy)

/-- `parseDocument`: the rule of a document, if it has one, and the revision. -/
def parseDocument (lib : NumberLibrary α) (raw : String) :
    Except String (Option (HysteresisRule α × ActuatorFaultPolicy) × ℕ) := do
  let doc ← orRefuse (lib.deserializeJson JSON_CAPACITY raw) "persisted_rule_config_json_invalid"
  refuseIf (!((doc.member "revision").isUInt 32 && (doc.member "rules").isArray))
    "persisted_rule_document_invalid"
  let revision := (doc.member "revision").asUInt 32
  match (doc.member "rules").asArray with
  | [] => return (none, revision)
  | object::rest =>
    refuseIf (!rest.isEmpty) "persisted_rule_multiple_not_supported_stage7"
    let parsed ← parseRule lib object
    return (some parsed, revision)

/-- `validateDocument`. -/
def validateDocument (lib : NumberLibrary α) (raw : String) : Except String Unit := do
  let _ ← parseDocument lib raw
  return ()

/-- The variables of the loader. -/
structure PersistedRuleLoader where
  /-- The revision that was loaded last. -/
  loadedRevision : ℕ := 0
  /-- The identifier of its rule. -/
  loadedRuleId : String := ""
  /-- Its fault policy. -/
  loadedFaultPolicy : ActuatorFaultPolicy := .SafeOff
  /-- What became of the last activation. -/
  lastResult : String := "never"
  deriving DecidableEq

/-- `applyParsed`: the engine, the policy, and a request. -/
def applyParsed (machines : Machines RuntimeState RuntimeEvent)
    (found : Option (HysteresisRule α × ActuatorFaultPolicy)) (revision : ℕ)
    (loader : PersistedRuleLoader) (s : System α) :
    (PersistedRuleLoader × System α) × Except String Unit :=
  match found with
  | none =>
    let s := { s with engine := .clear }.setFaultPolicy machines .SafeOff
    (({ loadedRevision := revision, lastResult := "no_rules" }, s.refreshEligibility machines),
      .ok ())
  | some (rule, faultPolicy) =>
    match s.engine.configure rule with
    | .error error =>
      (({ loader with
        lastResult := if error.length != 0 then error else "persisted_rule_semantic_invalid" }, s),
        .error error)
    | .ok engine =>
      let s := { s with engine }.setFaultPolicy machines faultPolicy
      let s := s.refreshEligibility machines
      (({ loadedRevision := revision, loadedRuleId := rule.id, loadedFaultPolicy := faultPolicy
          lastResult := if rule.enabled then "loaded_enabled" else "loaded_disabled" },
        (s.requestEvaluation machines "config_activation").1), .ok ())

/-- `activateDocument`. -/
def activateDocument (machines : Machines RuntimeState RuntimeEvent) (lib : NumberLibrary α)
    (raw : String) (revision : ℕ) (loader : PersistedRuleLoader) (s : System α) :
    (PersistedRuleLoader × System α) × Except String Unit :=
  match parseDocument lib raw with
  | .error error =>
    (({ loader with loadedRevision := revision, lastResult := error }, s), .error error)
  | .ok (found, parsedRevision) =>
    if parsedRevision ≠ revision then
      (({ loader with
        loadedRevision := revision, lastResult := "persisted_rule_revision_mismatch" }, s),
        .error "persisted_rule_revision_mismatch")
    else applyParsed machines found revision loader s

end ProjEsp32.RuleLoading
