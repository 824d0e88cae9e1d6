import ProjEsp32.ConfigurationRuns
import ProjEsp32.LocalSchedules
import ProjEsp32.RuleLoading

/-!
# Activating a configuration

The store asks a validator before it commits a text, and calls an activation
after it. The validator runs the parsers of the rule loader and of the schedule
service; the activation configures the rule engine and the schedule service.
What the validator lets pass, the activation does not refuse.
-/

namespace ProjEsp32.ConfigurationActivation

open ArduinoJson ArduinoText CheckedResult ConfigurationDocument ConfigurationRuns
open ConfigurationStore
open LocalSchedules hiding begin step
open MachineLibrary RuleEvaluation RuleExecution RuleLoading

variable {α : Type} [Zero α] [LT α] [DecidableLT α]

/-- What an activation configures. -/
structure Running (α : Type) [Zero α] where
  /-- The loader of the persisted rule. -/
  loader : PersistedRuleLoader := {}
  /-- The rule system. -/
  system : System α := {}
  /-- The schedule service. -/
  schedule : LocalScheduleService := {}

/-- The state machines of the rule runtime and of the schedule service. -/
structure RunningMachines where
  /-- The machine library, as the rule runtime has it. -/
  rules : Machines RuntimeState RuntimeEvent
  /-- And as the schedule service has it. -/
  schedules : Machines ScheduleState ScheduleEvent

/-- `validatePersistedConfiguration`. -/
def validatePersistedConfiguration (lib : NumberLibrary α) (raw : String) :
    Except String Unit := do
  RuleLoading.validateDocument lib raw
  LocalSchedules.validateDocument lib.toJsonLibrary raw

/-- `activatePersistedConfiguration`, with the answers of the two activations. An
error of one of them is only logged. -/
def activatePersistedConfiguration (machines : RunningMachines) (lib : NumberLibrary α)
    (accepted : Bool) (revision : ℕ) (raw : String) (r : Running α) :
    Running α × (Except String Unit × Except String Unit) :=
  let rule := RuleLoading.activateDocument machines.rules lib raw revision r.loader r.system
  let schedule :=
    r.schedule.activateDocument machines.schedules lib.toJsonLibrary accepted raw revision
  ({ loader := rule.1.1, system := rule.1.2, schedule := schedule.1 }, (rule.2, schedule.2))

/-! ### What a document asks for -/

/-- The rule of an entry. -/
def documentRule (lib : NumberLibrary α) (object : Json α) : HysteresisRule α where
  id := (object.member "id").orCStr ""
  enabled := (object.member "enabled").orBool true
  onBelow := lib.asFloat (object.member "on_below")
  offAbove := lib.asFloat (object.member "off_above")

/-- The schedule of an entry. -/
def documentSchedule (object : Json α) : DelayedAction where
  id := (object.member "id").orCStr ""
  enabled := (object.member "enabled").orBool true
  target := (object.member "target").orCStr ""
  desiredOn := (object.member "desired_on").orBool false
  delayMs := (object.member "delay_ms").asUInt 32

/-- The fault policy that an entry asks for: the one that its text names, in capitals and
without the white space around it, or `SAFE_OFF` when it names none. -/
def AsksForPolicy (object : Json α) (policy : ActuatorFaultPolicy) : Prop :=
  if object.containsKey "fault_policy" then
    ∃ text, object.member "fault_policy" = .str text ∧
      actuatorFaultPolicyName policy = toUpperCase (trim (cString text))
  else policy = .SafeOff

/-- The engine and the fault policy are those of the rules of a document. -/
def RuleInForce (lib : NumberLibrary α) (s : System α) : List (Json α) → Prop
  | [] => s.engine = .clear ∧ s.runtime.faultPolicy = .SafeOff
  | object::rest => rest = [] ∧ s.engine.configured = true ∧
      s.engine.rule = documentRule lib object ∧ AsksForPolicy object s.runtime.faultPolicy

/-- The schedule service has the schedule of a document. -/
def ScheduleInForce (s : LocalScheduleService) : List (Json α) → Prop
  | [] => s.configured = false ∧ s.action = {}
  | object::rest => rest = [] ∧ s.configured = true ∧ s.action = documentSchedule object

/-- A text is in force, under a revision. -/
structure InForce (lib : NumberLibrary α) (raw : String) (revision : ℕ) (r : Running α) :
    Prop where
  /-- The loader has loaded this revision. -/
  loader : r.loader.loadedRevision = revision
  /-- And so has the schedule service. -/
  schedule : r.schedule.loadedRevision = revision
  /-- The rule, the policy and the schedule are those of the document. -/
  document : ∃ doc, lib.deserializeJson RuleLoading.JSON_CAPACITY raw = some doc ∧
    RuleInForce lib r.system (doc.member "rules").asArray ∧
    ScheduleInForce r.schedule (doc.member "schedules").asArray

/-- The text is a document with this revision. -/
def Carries (lib : NumberLibrary α) (raw : String) (revision : ℕ) : Prop :=
  ∃ doc, lib.deserializeJson RuleLoading.JSON_CAPACITY raw = some doc ∧
    (doc.member "revision").isUInt 32 = true ∧ (doc.member "revision").asUInt 32 = revision

variable {lib : NumberLibrary α} {raw : String} {revision : ℕ} {r : Running α}

/-! ### What the parsers let pass -/

omit [Zero α] [LT α] [DecidableLT α] in
/-- The loader reads the policy that an entry asks for. -/
theorem parseFaultPolicy_eq_ok {object : Json α} {policy : ActuatorFaultPolicy} :
    parseFaultPolicy object = .ok policy ↔ AsksForPolicy object policy := by
  unfold parseFaultPolicy AsksForPolicy
  by_cases hkey : object.containsKey "fault_policy" = true
  · rw [if_pos hkey, if_pos hkey]
    simp only [bind_eq_ok, refuseIf_eq_ok, orRefuse_eq_ok, parseActuatorFaultPolicy_eq_some,
      Bool.not_eq_false']
    cases object.member "fault_policy" with
    | str text => simp [Json.isCStr, Json.orCStr]
    | null | bool | int | float | arr | obj => simp [Json.isCStr]
  · rw [if_neg hkey, if_neg hkey]
    exact ⟨fun h => (Except.ok.inj h).symm, fun h => congrArg Except.ok h.symm⟩

/-- The rule that the loader reads is the rule of the entry, and the engine takes it. -/
structure RuleAccepted (lib : NumberLibrary α) (object : Json α) (rule : HysteresisRule α)
    (faultPolicy : ActuatorFaultPolicy) : Prop where
  /-- The engine takes the rule, whatever it had before. -/
  configures : ∀ engine : RuleEngine α, ∃ lastDecision, engine.configure rule =
    .ok { rule := rule, configured := true, lastDecision := lastDecision, lastError := "" }
  /-- It is the rule that the entry states. -/
  rule : rule = documentRule lib object
  /-- And this is the policy that it asks for. -/
  faultPolicy : AsksForPolicy object faultPolicy

/-- A rule that is parsed is accepted, with its parts as the object has them. -/
theorem parseRule_accepted {object : Json α} {rule : HysteresisRule α}
    {faultPolicy : ActuatorFaultPolicy} (h : parseRule lib object = .ok (rule, faultPolicy)) :
    RuleAccepted lib object rule faultPolicy := by
  unfold parseRule at h
  simp only [bind_eq_ok, refuseIf_eq_ok, Bool.or_eq_false_iff, Bool.not_eq_false'] at h
  obtain ⟨_, _, _, _, _, _, _, _, _, _, _, _, policy, hpolicy, _, ⟨hfinite, hlt⟩, _, hid, hout⟩ := h
  cases hout
  refine ⟨?_, rfl, parseFaultPolicy_eq_ok.mp hpolicy⟩
  intro engine
  refine ⟨if (object.member "enabled").orBool true then .None else .Disabled, ?_⟩
  simp [RuleEngine.configure, refuseIf, RuleEngine.validId, hid, hfinite, hlt]

/-- The rules that the loader reads. -/
inductive RulesRead (lib : NumberLibrary α) :
    List (Json α) → Option (HysteresisRule α × ActuatorFaultPolicy) → Prop where
  | none : RulesRead lib [] none
  | one {object : Json α} {rule : HysteresisRule α} {faultPolicy : ActuatorFaultPolicy}
      (accepted : RuleAccepted lib object rule faultPolicy) :
      RulesRead lib [object] (some (rule, faultPolicy))

/-- A document that the loader parses has its rules read. -/
theorem parseDocument_rules
    {parsed : Option (HysteresisRule α × ActuatorFaultPolicy) × ℕ}
    (h : RuleLoading.parseDocument lib raw = .ok parsed) :
    ∃ doc, lib.deserializeJson RuleLoading.JSON_CAPACITY raw = some doc ∧
      (doc.member "revision").asUInt 32 = parsed.2 ∧
      RulesRead lib (doc.member "rules").asArray parsed.1 := by
  unfold RuleLoading.parseDocument at h
  simp only [bind_eq_ok, orRefuse_eq_ok] at h
  obtain ⟨doc, hdoc, _, _, h⟩ := h
  refine ⟨doc, hdoc, ?_⟩
  cases hrules : (doc.member "rules").asArray with
  | nil =>
    rw [hrules] at h
    cases h
    exact ⟨rfl, .none⟩
  | cons object rest =>
    rw [hrules] at h
    simp only [bind_eq_ok, refuseIf_eq_ok, Bool.not_eq_false', List.isEmpty_iff] at h
    obtain ⟨_, rfl, ⟨rule, faultPolicy⟩, hrule, h⟩ := h
    cases h
    exact ⟨rfl, .one (parseRule_accepted hrule)⟩

/-- The schedules that the service reads. -/
inductive SchedulesRead : List (Json α) → Option DelayedAction → Prop where
  | none : SchedulesRead [] none
  | one (object : Json α) : SchedulesRead [object] (some (documentSchedule object))

omit [Zero α] [LT α] [DecidableLT α] in
/-- A document that the schedules are parsed from has them read. -/
theorem parseDocument_schedules {lib : JsonLibrary α} {found : Option DelayedAction}
    (h : LocalSchedules.parseDocument lib raw = .ok found) :
    ∃ doc, lib.deserializeJson LocalSchedules.JSON_CAPACITY raw = some doc ∧
      SchedulesRead (doc.member "schedules").asArray found := by
  unfold LocalSchedules.parseDocument at h
  simp only [bind_eq_ok, orRefuse_eq_ok] at h
  obtain ⟨doc, hdoc, _, _, h⟩ := h
  refine ⟨doc, hdoc, ?_⟩
  cases hschedules : (doc.member "schedules").asArray with
  | nil =>
    rw [hschedules] at h
    cases h
    exact .none
  | cons object rest =>
    rw [hschedules] at h
    simp only [bind_eq_ok, refuseIf_eq_ok, Bool.not_eq_false', List.isEmpty_iff] at h
    obtain ⟨_, rfl, action, haction, h⟩ := h
    cases h
    unfold parseAction at haction
    simp only [bind_eq_ok] at haction
    obtain ⟨_, _, _, _, _, _, _, _, _, _, _, _, _, _, hout⟩ := haction
    cases hout
    exact .one object

/-! ### What the activation does with it -/

/-- Without a rule the engine is cleared, and the outputs are to be off. -/
theorem applyParsed_none (machines : Machines RuntimeState RuntimeEvent) (revision : ℕ)
    (loader : PersistedRuleLoader) (s : System α) :
    let applied := applyParsed machines none revision loader s
    applied.2 = .ok () ∧
      applied.1.1 = { loadedRevision := revision, lastResult := "no_rules" } ∧
        RuleExecution.Kept { s with engine := .clear, runtime.faultPolicy := .SafeOff }
          applied.1.2 := by
  have hset := refreshEligibility_kept machines
    { s with engine := .clear, runtime.faultPolicy := .SafeOff }
  exact ⟨rfl, rfl, hset.trans (refreshEligibility_kept machines _)⟩

/-- A rule that the engine takes is put in force, and reported. -/
theorem applyParsed_some (machines : Machines RuntimeState RuntimeEvent)
    {rule : HysteresisRule α} {engine : RuleEngine α} {s : System α}
    (hengine : s.engine.configure rule = .ok engine) (faultPolicy : ActuatorFaultPolicy)
    (revision : ℕ) (loader : PersistedRuleLoader) :
    let applied := applyParsed machines (some (rule, faultPolicy)) revision loader s
    applied.2 = .ok () ∧
      applied.1.1 =
        { loadedRevision := revision
          loadedRuleId := rule.id
          loadedFaultPolicy := faultPolicy
          lastResult := if rule.enabled then "loaded_enabled" else "loaded_disabled" } ∧
        RuleExecution.Kept { s with engine, runtime.faultPolicy := faultPolicy } applied.1.2 := by
  intro applied
  have happlied : applied = applyParsed machines (some (rule, faultPolicy)) revision loader s := rfl
  unfold applyParsed at happlied
  dsimp only at happlied
  rw [hengine] at happlied
  have hset := refreshEligibility_kept machines
    { s with engine, runtime.faultPolicy := faultPolicy }
  have hrefreshed := hset.trans (refreshEligibility_kept machines _)
  have hrequested := hrefreshed.trans (requestEvaluation_kept machines "config_activation" _)
  rw [happlied]
  exact ⟨rfl, rfl, hrequested⟩

/-- The rules that were read are put in force, whatever the runtime is doing. -/
theorem applyParsed_inForce (machines : Machines RuntimeState RuntimeEvent)
    {rules : List (Json α)} {found : Option (HysteresisRule α × ActuatorFaultPolicy)}
    (h : RulesRead lib rules found) (revision : ℕ) (loader : PersistedRuleLoader) (s : System α) :
    let applied := applyParsed machines found revision loader s
    applied.2 = .ok () ∧ applied.1.1.loadedRevision = revision ∧
      RuleInForce lib applied.1.2 rules := by
  cases h with
  | none =>
    obtain ⟨hok, hloader, hkept⟩ := applyParsed_none machines revision loader s
    exact ⟨hok, congrArg PersistedRuleLoader.loadedRevision hloader, hkept.engine,
      hkept.faultPolicy⟩
  | @one object rule faultPolicy accepted =>
    obtain ⟨lastDecision, hengine⟩ := accepted.configures s.engine
    obtain ⟨hok, hloader, hkept⟩ :=
      applyParsed_some machines hengine faultPolicy revision loader
    refine ⟨hok, congrArg PersistedRuleLoader.loadedRevision hloader, rfl, ?_, ?_, ?_⟩
    · exact congrArg RuleEngine.configured hkept.engine
    · exact (congrArg RuleEngine.rule hkept.engine).trans accepted.rule
    · rw [hkept.faultPolicy]
      exact accepted.faultPolicy

/-- What a cancelled schedule leaves alone. -/
theorem cancel_kept (machines : Machines ScheduleState ScheduleEvent) (result : String)
    (s : LocalScheduleService) :
    (s.cancel machines result).loadedRevision = s.loadedRevision ∧
      (s.cancel machines result).configured = s.configured ∧
      (s.cancel machines result).action = s.action := by
  unfold LocalScheduleService.cancel
  dsimp only
  split <;> exact ⟨rfl, rfl, rfl⟩

/-- What arming a schedule leaves alone. -/
theorem arm_kept (machines : Machines ScheduleState ScheduleEvent) (accepted : Bool)
    (s : LocalScheduleService) :
    (s.arm machines accepted).1.loadedRevision = s.loadedRevision ∧
      (s.arm machines accepted).1.configured = s.configured ∧
      (s.arm machines accepted).1.action = s.action ∧
      (accepted = true → (s.arm machines accepted).2 = .ok ()) := by
  unfold LocalScheduleService.arm
  cases accepted with
  | false =>
    dsimp only
    rw [if_neg (by decide)]
    split <;> exact ⟨rfl, rfl, rfl, fun h => by cases h⟩
  | true =>
    dsimp only
    rw [if_pos rfl]
    split <;> exact ⟨rfl, rfl, rfl, fun _ => rfl⟩

omit [Zero α] [LT α] [DecidableLT α] in
/-- The schedule that was read is taken, whatever the service was waiting for. -/
theorem activateDocument_inForce (machines : Machines ScheduleState ScheduleEvent)
    {lib : JsonLibrary α} {schedules : List (Json α)} {found : Option DelayedAction}
    (hfound : LocalSchedules.parseDocument lib raw = .ok found) (h : SchedulesRead schedules found)
    (accepted : Bool) (revision : ℕ) (s : LocalScheduleService) :
    let activated := s.activateDocument machines lib accepted raw revision
    (accepted = true → activated.2 = .ok ()) ∧ activated.1.loadedRevision = revision ∧
      ScheduleInForce activated.1 schedules := by
  unfold LocalScheduleService.activateDocument
  rw [hfound]
  dsimp only
  cases h with
  | none =>
    obtain ⟨hrevision, hconfigured, haction⟩ :=
      cancel_kept machines "no_schedules" (s.take none revision)
    exact ⟨fun _ => rfl, hrevision, hconfigured, haction⟩
  | one object =>
    dsimp only
    by_cases henabled : (!(documentSchedule object).enabled) = true
    · rw [if_pos henabled]
      obtain ⟨hrevision, hconfigured, haction⟩ := cancel_kept machines "schedule_disabled"
        (s.take (some (documentSchedule object)) revision)
      exact ⟨fun _ => rfl, hrevision, rfl, hconfigured, haction⟩
    · rw [if_neg henabled]
      obtain ⟨hrevision, hconfigured, haction, hanswer⟩ := arm_kept machines accepted
        (s.take (some (documentSchedule object)) revision)
      exact ⟨hanswer, hrevision, rfl, hconfigured, haction⟩

/-- Both activations return true, and the text is in force. -/
def Activates (machines : RunningMachines) (lib : NumberLibrary α) (revision : ℕ)
    (raw : String) (r : Running α) : Prop :=
  let activated := activatePersistedConfiguration machines lib true revision raw r
  activated.2 = (.ok (), .ok ()) ∧ InForce lib raw revision activated.1

/-- A text that the validator lets pass is put in force from every state, and its
activations return true unless the task scheduler refuses. -/
theorem activate_of_validated (machines : RunningMachines)
    (hvalid : validatePersistedConfiguration lib raw = .ok ()) (hcarries : Carries lib raw revision)
    (accepted : Bool) (r : Running α) :
    let activated := activatePersistedConfiguration machines lib accepted revision raw r
    InForce lib raw revision activated.1 ∧ (accepted = true → activated.2 = (.ok (), .ok ())) := by
  unfold validatePersistedConfiguration RuleLoading.validateDocument
    LocalSchedules.validateDocument at hvalid
  simp only [bind_eq_ok] at hvalid
  obtain ⟨_, ⟨⟨found, parsedRevision⟩, hrules, _⟩, schedule, hschedules, _⟩ := hvalid
  obtain ⟨doc, hdoc, hrevision, hread⟩ := parseDocument_rules hrules
  obtain ⟨scheduleDoc, hscheduleDoc, hscheduleRead⟩ := parseDocument_schedules hschedules
  obtain ⟨carried, hcarried, _, hcarriedRevision⟩ := hcarries
  -- the two parsers and the revision read the same document
  obtain rfl : doc = carried := Option.some.inj (hdoc.symm.trans hcarried)
  obtain rfl : doc = scheduleDoc := Option.some.inj (hdoc.symm.trans hscheduleDoc)
  obtain rfl : parsedRevision = revision := hrevision.symm.trans hcarriedRevision
  have hrule : RuleLoading.activateDocument machines.rules lib raw parsedRevision r.loader
      r.system =
      applyParsed machines.rules found parsedRevision r.loader r.system := by
    unfold RuleLoading.activateDocument
    rw [hrules]
    simp
  obtain ⟨hruleAnswer, hruleRevision, hruleForce⟩ :=
    applyParsed_inForce machines.rules hread parsedRevision r.loader r.system
  obtain ⟨hscheduleAnswer, hscheduleRevision, hscheduleForce⟩ := activateDocument_inForce
    machines.schedules hschedules hscheduleRead accepted parsedRevision r.schedule
  unfold activatePersistedConfiguration
  rw [hrule]
  exact ⟨⟨hruleRevision, hscheduleRevision, doc, hdoc, hruleForce, hscheduleForce⟩,
    fun haccepted => Prod.ext hruleAnswer (hscheduleAnswer haccepted)⟩

/-- A validated document is activated under its revision. -/
theorem activates_of_validated (machines : RunningMachines)
    (hvalid : validatePersistedConfiguration lib raw = .ok ()) (hcarries : Carries lib raw revision)
    (r : Running α) : Activates machines lib revision raw r := by
  obtain ⟨hforce, hanswers⟩ := activate_of_validated machines hvalid hcarries true r
  exact ⟨hanswers rfl, hforce⟩

/-! ### What the store commits -/

/-- The store has the callbacks of main. -/
structure Wired (lib : NumberLibrary α) (ram : Ram) : Prop where
  /-- A configuration is validated by the services that it is for. -/
  validator : ram.ruleValidator = some (validatePersistedConfiguration lib)
  /-- And is activated in them. -/
  activated : ram.activatedCallback = true

/-- The validator let a text pass that the store was about to commit. -/
theorem validated_of_checkSemantics
    (h : checkSemantics (some (validatePersistedConfiguration lib)) raw = .ok ()) :
    validatePersistedConfiguration lib raw = .ok () := by
  unfold checkSemantics at h
  dsimp only at h
  split at h
  · assumption
  · cases h

omit [Zero α] [LT α] [DecidableLT α] in
/-- A text that reads back carries its revision. -/
theorem carries_of_reads (h : Reads lib.toJsonLibrary raw revision) : Carries lib raw revision := by
  obtain ⟨document, hread, hvalid, hrevision⟩ := document_of_loadText h.2
  refine ⟨document, hread, ?_, hrevision.symm⟩
  unfold ConfigurationDocument.validateDocument at hvalid
  simp only [bind_eq_ok, refuseIf_eq_ok, Bool.true_and, Bool.not_eq_false'] at hvalid
  obtain ⟨_, _, _, _, _, hnumber, _⟩ := hvalid
  exact hnumber

/-- A committed text: the validator let it pass, it carries its revision, and the
activation callback is run for it. -/
structure Handed (lib : NumberLibrary α) (s t : Store) : Prop where
  /-- The text has been validated. -/
  validated : validatePersistedConfiguration lib t.ram.activeRaw = .ok ()
  /-- It states its own revision. -/
  carries : Carries lib t.ram.activeRaw t.ram.activeRevision
  /-- The revision is the next one. -/
  revision : t.ram.activeRevision = s.ram.activeRevision + 1
  /-- The text is handed to the services, once. -/
  activations : t.activations = s.activations ++ [(t.ram.activeRevision, t.ram.activeRaw)]
  /-- The store stays wired to them. -/
  wired : Wired lib t.ram

/-- An activation that succeeds hands its document to the callback. -/
theorem handed_of_activate {s : Store} (hs : Wired lib s.ram) {faults : Faults} {result : String}
    (hnext : nextRevision faults s.ram = .ok revision)
    (hvalid : validatePersistedConfiguration lib raw = .ok ())
    (h : (activate lib.toJsonLibrary faults raw revision result s).2 = some (.ok ())) :
    Handed lib s (activate lib.toJsonLibrary faults raw revision result s).1 := by
  obtain ⟨hreads, nvs, heq⟩ := activate_ok h
  rw [heq]
  exact ⟨hvalid, carries_of_reads hreads, (nextRevision_eq_ok hnext).2, if_pos hs.activated,
    ⟨hs.validator, hs.activated⟩⟩

/-- Every successful apply or rollback hands over what it has committed. -/
theorem handed_of_returned {s : Store} (hs : Wired lib s.ram) {e : Event}
    (h : returned lib.toJsonLibrary s e = some (.ok ())) :
    Handed lib s (step lib.toJsonLibrary s e) := by
  rcases called_of_returned h with ⟨_, _, hanswer⟩ |
      ⟨faults, revision, raw, result, hnext, hchecked, _, hstep, hanswer⟩
  · cases hanswer.symm.trans h
  · rw [hs.validator] at hchecked
    rw [hstep]
    exact handed_of_activate hs hnext (validated_of_checkSemantics hchecked)
      (hanswer.symm.trans h)

/-- Validation guarantees activation: a text that the validator lets pass, under
the revision that it carries, is activated from every state of the rule engine,
the rule runtime and the schedule service. So is what any successful apply or
rollback has committed. -/
theorem validated_activates (machines : RunningMachines) (lib : NumberLibrary α) :
    (∀ raw revision, validatePersistedConfiguration lib raw = .ok () → Carries lib raw revision →
      ∀ r, Activates machines lib revision raw r) ∧
    ∀ s e, Wired lib s.ram → returned lib.toJsonLibrary s e = some (.ok ()) →
      let t := step lib.toJsonLibrary s e
      t.activations = s.activations ++ [(t.ram.activeRevision, t.ram.activeRaw)] ∧
        ∀ r, Activates machines lib t.ram.activeRevision t.ram.activeRaw r := by
  refine ⟨fun raw revision => activates_of_validated machines, ?_⟩
  intro s e hs hreturned
  have hhanded := handed_of_returned hs hreturned
  exact ⟨hhanded.activations, activates_of_validated machines hhanded.validated hhanded.carries⟩

/-- Machines that do what their library documents. -/
def sampleRunningMachines : RunningMachines := ⟨sampleMachines, sampleMachines⟩

/-- A document with a rule and a schedule. -/
def sampleDocument : Json ℕ :=
  .obj [("schema", .int 1), ("revision", .int 1),
    ("rules", .arr [.obj [("id", .str "demo.rule"), ("type", .str "hysteresis"),
      ("input", .str "virtual.temperature"), ("output", .str "virtual.heater"),
      ("on_below", .int 18), ("off_above", .int 21), ("fault_policy", .str "SAFE_ON")]]),
    ("schedules", .arr [.obj [("id", .str "demo.delay.on"),
      ("type", .str "delay_after_activation"), ("target", .str "virtual.schedule_output"),
      ("desired_on", .bool true), ("delay_ms", .int 4000)]])]

/-- A library whose texts are all the same document. -/
def sampleNumberLibrary : NumberLibrary ℕ where
  deserializeJson _ _ := some sampleDocument
  serializeJson _ := "document"
  setMember _ document _ _ := document
  asFloat
    | .int value => .finite value.toNat
    | _ => .nonfinite

/-- A store that is ready, with the callbacks of main. -/
def sampleStore : Store where
  ram := { configReady := true, ruleValidator := some (validatePersistedConfiguration
    sampleNumberLibrary), activatedCallback := true }

/-- An apply of the document, and its activation. -/
theorem validated_activates_sample :
    Activates sampleRunningMachines sampleNumberLibrary 1 "document" {} ∧
      (step sampleNumberLibrary.toJsonLibrary sampleStore (.apply {} "document")).activations =
        [(1, "document")] := by
  have hvalid : validatePersistedConfiguration sampleNumberLibrary "document" = .ok () := by
    decide +kernel
  have hreturned : returned sampleNumberLibrary.toJsonLibrary sampleStore (.apply {} "document") =
      some (.ok ()) := by
    decide +kernel
  have hactivates := validated_activates sampleRunningMachines sampleNumberLibrary
  exact ⟨hactivates.1 "document" 1 hvalid ⟨sampleDocument, rfl, by decide, by decide⟩ {},
    (hactivates.2 sampleStore (.apply {} "document") ⟨rfl, rfl⟩ hreturned).1⟩

end ProjEsp32.ConfigurationActivation
