import ProjEsp32.ConfigurationActivation
import ProjEsp32.ControlLoop

/-!
# What the loader reports

The loader reports the revision, the rule and the policy that it has loaded. An
activation whose text does not parse, or parses with another revision, leaves
the rule in force and still stores the revision that it was called with; the
third error exit, of a rule that the engine refuses, does not.
-/

namespace ProjEsp32.RuleDiagnostics

open ArduinoJson CheckedResult ControlLoop MachineLibrary RuleEvaluation RuleExecution RuleLoading
open TransitionRuns
open ConfigurationActivation (AsksForPolicy RuleAccepted RulesRead applyParsed_none
  applyParsed_some documentRule parseDocument_rules)

variable {α : Type} [Zero α] [LT α] [DecidableLT α]

/-- The device, with the text of the last activation that returned true; no step
reads it. -/
structure Traced (α : Type) [Zero α] where
  /-- The device. -/
  device : Device α
  /-- The document that the engine has its rule from. -/
  source : Option String := none

/-- The text that the rule comes from after an activation. -/
def sourceAfter (machines : Machines RuntimeState RuntimeEvent) (lib : NumberLibrary α)
    (raw : String) (revision : ℕ) (t : Traced α) : Option String :=
  match (activateDocument machines lib raw revision t.device.loader t.device.system).2 with
  | .ok _ => some raw
  | .error _ => t.source

/-- One step of the device. -/
def traced (machines : Machines RuntimeState RuntimeEvent) (lib : NumberLibrary α) (t : Traced α)
    (label : Label α) : Traced α where
  device := step machines lib t.device label
  source :=
    match label with
    | .activate raw revision => sourceAfter machines lib raw revision t
    | _ => t.source

/-- The device after `setup`. -/
def start (machines : Machines RuntimeState RuntimeEvent) (lib : NumberLibrary α) (raw : String)
    (revision : ℕ) : Traced α where
  device := setup machines lib raw revision
  source := sourceAfter machines lib raw revision { device := { system := wired machines } }

/-- Engine and policy are those of the rules of a document. -/
def RuleOf (lib : NumberLibrary α) (s : System α) : List (Json α) → Prop
  | [] => s.engine.rule = {} ∧ s.engine.configured = false ∧ s.runtime.faultPolicy = .SafeOff
  | object::rest => rest = [] ∧ s.engine.rule = documentRule lib object ∧
      s.engine.configured = true ∧ AsksForPolicy object s.runtime.faultPolicy

/-- Rule id and policy that the loader reports are those of the rules of a document. -/
def ReportOf (loader : PersistedRuleLoader) : List (Json α) → Prop
  | [] => loader.loadedRuleId = "" ∧ loader.loadedFaultPolicy = .SafeOff
  | object::_ => loader.loadedRuleId = (object.member "id").orCStr "" ∧
      AsksForPolicy object loader.loadedFaultPolicy

/-- The text is accepted, its rule is in force, and the loader reports what its document
says. -/
def Describes (lib : NumberLibrary α) (raw : String) (loader : PersistedRuleLoader)
    (s : System α) : Prop :=
  validateDocument lib raw = .ok () ∧
    ∃ doc, lib.deserializeJson JSON_CAPACITY raw = some doc ∧
      (doc.member "revision").asUInt 32 = loader.loadedRevision ∧
      RuleOf lib s (doc.member "rules").asArray ∧
      ReportOf loader (doc.member "rules").asArray

/-- The loader describes the text that the rule in force came from, once there is one. -/
def Truthful (lib : NumberLibrary α) (t : Traced α) : Prop :=
  ∀ raw, t.source = some raw → Describes lib raw t.device.loader t.device.system

/-- A text that is not activated: it does not parse, or not with this revision. -/
def refused (lib : NumberLibrary α) (raw : String) (revision : ℕ) : Bool :=
  match parseDocument lib raw with
  | .ok (_, parsedRevision) => parsedRevision != revision
  | .error _ => true

/-- The step is an activation that fails after one that succeeded, with a revision
other than the loaded one. -/
def Misreports (lib : NumberLibrary α) (t : Traced α) : Label α → Prop
  | .activate raw revision => t.source.isSome = true ∧ refused lib raw revision = true ∧
      revision ≠ t.device.loader.loadedRevision
  | _ => False

variable {machines : Machines RuntimeState RuntimeEvent} {lib : NumberLibrary α}
variable {raw : String} {revision : ℕ} {t : Traced α} {d : Device α}

/-! ### The exits of an activation -/

/-- What a refused text changes is the result and the revision of the loader. -/
theorem activateDocument_refused (machines : Machines RuntimeState RuntimeEvent)
    (h : refused lib raw revision = true) (loader : PersistedRuleLoader) (s : System α) :
    ∃ error, activateDocument machines lib raw revision loader s =
      (({ loader with loadedRevision := revision, lastResult := error }, s), .error error) := by
  unfold refused at h
  unfold activateDocument
  cases hparsed : parseDocument lib raw with
  | error error => exact ⟨error, rfl⟩
  | ok parsed =>
    obtain ⟨found, parsedRevision⟩ := parsed
    rw [hparsed] at h
    have hrevision : parsedRevision ≠ revision := bne_iff_ne.mp h
    exact ⟨"persisted_rule_revision_mismatch", if_pos hrevision⟩

/-- A text that is not refused is activated: its rule is in force, and reported. -/
theorem activateDocument_described (machines : Machines RuntimeState RuntimeEvent)
    (h : refused lib raw revision = false) (loader : PersistedRuleLoader) (s : System α) :
    let activated := activateDocument machines lib raw revision loader s
    activated.2 = .ok () ∧ activated.1.1.loadedRevision = revision ∧
      Describes lib raw activated.1.1 activated.1.2 := by
  unfold refused at h
  unfold activateDocument Describes RuleLoading.validateDocument
  cases hparsed : parseDocument lib raw with
  | error error =>
    rw [hparsed] at h
    cases h
  | ok parsed =>
    obtain ⟨doc, hdoc, hread, hrules⟩ := parseDocument_rules hparsed
    obtain ⟨found, parsedRevision⟩ := parsed
    rw [hparsed] at h
    obtain rfl : parsedRevision = revision := bne_eq_false_iff_eq.mp h
    dsimp only
    rw [if_neg (not_not.mpr rfl)]
    have hreported {applied : (PersistedRuleLoader × System α) × Except String Unit}
        (hok : applied.2 = .ok ()) (hrevision : applied.1.1.loadedRevision = parsedRevision)
        (hrule : RuleOf lib applied.1.2 (doc.member "rules").asArray)
        (hreport : ReportOf applied.1.1 (doc.member "rules").asArray) :
        applied.2 = .ok () ∧ applied.1.1.loadedRevision = parsedRevision ∧
          (Except.ok () : Except String Unit) = .ok () ∧
            ∃ doc, lib.deserializeJson JSON_CAPACITY raw = some doc ∧
              (doc.member "revision").asUInt 32 = applied.1.1.loadedRevision ∧
              RuleOf lib applied.1.2 (doc.member "rules").asArray ∧
              ReportOf applied.1.1 (doc.member "rules").asArray :=
      ⟨hok, hrevision, rfl, doc, hdoc, hread.trans hrevision.symm, hrule, hreport⟩
    generalize (doc.member "rules").asArray = rules at hrules hreported
    cases hrules with
    | none =>
      obtain ⟨hok, hloader, hkept⟩ := applyParsed_none machines parsedRevision loader s
      refine hreported hok ?_ ⟨?_, ?_, hkept.faultPolicy⟩ ⟨?_, ?_⟩
      · exact congrArg PersistedRuleLoader.loadedRevision hloader
      · exact congrArg RuleEngine.rule hkept.engine
      · exact congrArg RuleEngine.configured hkept.engine
      · exact congrArg PersistedRuleLoader.loadedRuleId hloader
      · exact congrArg PersistedRuleLoader.loadedFaultPolicy hloader
    | @one object rule faultPolicy accepted =>
      obtain ⟨lastDecision, hengine⟩ := accepted.configures s.engine
      obtain ⟨hok, hloader, hkept⟩ :=
        applyParsed_some machines hengine faultPolicy parsedRevision loader
      refine hreported hok ?_ ⟨rfl, ?_, ?_, ?_⟩ ⟨?_, ?_⟩
      · exact congrArg PersistedRuleLoader.loadedRevision hloader
      · exact (congrArg RuleEngine.rule hkept.engine).trans accepted.rule
      · exact congrArg RuleEngine.configured hkept.engine
      · rw [hkept.faultPolicy]
        exact accepted.faultPolicy
      · rw [hloader, accepted.rule]
        rfl
      · rw [hloader]
        exact accepted.faultPolicy

/-- The source after an activation is its text, unless it is refused. -/
theorem sourceAfter_eq (t : Traced α) :
    sourceAfter machines lib raw revision t =
      if refused lib raw revision = true then t.source else some raw := by
  unfold sourceAfter
  cases hrefused : refused lib raw revision with
  | true =>
    obtain ⟨error, heq⟩ := activateDocument_refused machines hrefused
      t.device.loader t.device.system
    rw [heq]
    rfl
  | false =>
    rw [(activateDocument_described machines hrefused t.device.loader t.device.system).1]
    rfl

/-! ### Steps -/

/-- The other steps keep rule, policy and loader. -/
structure RuleKept (d e : Device α) : Prop where
  /-- The loader stays. -/
  loader : e.loader = d.loader
  /-- The rule stays. -/
  rule : e.system.engine.rule = d.system.engine.rule
  /-- The engine stays configured, or not. -/
  configured : e.system.engine.configured = d.system.engine.configured
  /-- The policy stays. -/
  faultPolicy : e.system.runtime.faultPolicy = d.system.runtime.faultPolicy

omit [LT α] [DecidableLT α] in
/-- A rule that stays is described as before. -/
theorem RuleOf.kept {s u : System α} (hrule : u.engine.rule = s.engine.rule)
    (hconfigured : u.engine.configured = s.engine.configured)
    (hpolicy : u.runtime.faultPolicy = s.runtime.faultPolicy)
    {rules : List (Json α)} (h : RuleOf lib s rules) : RuleOf lib u rules := by
  cases rules with
  | nil =>
    obtain ⟨hempty, hcleared, hsafe⟩ := h
    exact ⟨hrule.trans hempty, hconfigured.trans hcleared, hpolicy.trans hsafe⟩
  | cons object rest =>
    obtain ⟨hone, hread, hset, hasks⟩ := h
    exact ⟨hone, hrule.trans hread, hconfigured.trans hset, hpolicy ▸ hasks⟩

/-- Where rule, policy and loader stay, what is described stays described. -/
theorem Describes.kept {e : Device α} (h : Describes lib raw d.loader d.system)
    (hkept : RuleKept d e) : Describes lib raw e.loader e.system := by
  obtain ⟨hvalid, doc, hdoc, hrevision, hrule, hreport⟩ := h
  rw [hkept.loader]
  exact ⟨hvalid, doc, hdoc, hrevision,
    hrule.kept hkept.rule hkept.configured hkept.faultPolicy, hreport⟩

/-- A pass of the scheduler keeps rule and policy. -/
theorem pass_same (hmachines : machines.Takes) {s : System α} (hs : Working s)
    (others : OtherPosts) :
    (pass machines others s).engine.rule = s.engine.rule ∧
      (pass machines others s).engine.configured = s.engine.configured ∧
        (pass machines others s).runtime.faultPolicy = s.runtime.faultPolicy := by
  by_cases hready : s.runtime.evaluationTask.ready = true
  · obtain ⟨u, hexecuted, heq⟩ := pass_of_ready hmachines hs hready others
    rw [heq]
    exact ⟨hexecuted.same.rule, hexecuted.same.configured, hexecuted.same.faultPolicy⟩
  · obtain ⟨task, _, heq⟩ := pass_of_not_ready machines hready others
    rw [heq]
    exact ⟨rfl, rfl, rfl⟩

omit [LT α] [DecidableLT α] in
/-- And so does the processing of events. -/
theorem process_same (hmachines : machines.Takes) {s : System α} (hs : Working s)
    (maxEvents : ℕ) :
    (process machines maxEvents s).engine.rule = s.engine.rule ∧
      (process machines maxEvents s).engine.configured = s.engine.configured ∧
        (process machines maxEvents s).runtime.faultPolicy = s.runtime.faultPolicy := by
  refine (process_invariant hmachines (P := fun u : System α =>
    u.engine.rule = s.engine.rule ∧ u.engine.configured = s.engine.configured ∧
      u.runtime.faultPolicy = s.runtime.faultPolicy) ?_ hs ⟨rfl, rfl, rfl⟩ maxEvents).2
  rintro u event rest hu ⟨hrule, hconfigured, hpolicy⟩ hpop
  rcases handleEvent_cases hmachines (working_popped hu hpop).steady event with
    ⟨_, heq⟩ | ⟨_, hrequested⟩
  · rw [heq]
    exact ⟨hrule, hconfigured, hpolicy⟩
  · have hsame := hrequested.kept.same
    exact ⟨hsame.rule.trans hrule, hsame.configured.trans hconfigured,
      hsame.faultPolicy.trans hpolicy⟩

/-- Every step but an activation keeps rule, policy and loader. -/
theorem step_ruleKept (hmachines : machines.Takes) (hs : Working d.system) {label : Label α}
    (h : ∀ raw revision, label ≠ .activate raw revision) :
    RuleKept d (step machines lib d label) := by
  cases label with
  | loop others =>
    rw [step]
    cases d.phase with
    | pass =>
      obtain ⟨hrule, hconfigured, hpolicy⟩ := pass_same hmachines hs others
      exact ⟨rfl, hrule, hconfigured, hpolicy⟩
    | process =>
      obtain ⟨hrule, hconfigured, hpolicy⟩ := process_same hmachines hs 8
      exact ⟨rfl, hrule, hconfigured, hpolicy⟩
  | setValue value => exact ⟨rfl, rfl, rfl, rfl⟩
  | injectFault faultCode => exact ⟨rfl, rfl, rfl, rfl⟩
  | recover => exact ⟨rfl, rfl, rfl, rfl⟩
  | disable => exact ⟨rfl, rfl, rfl, rfl⟩
  | activate raw revision => exact absurd rfl (h raw revision)

/-- An activation reports the truth exactly when it does not misreport. -/
theorem activate_truthful (ht : Truthful lib t) :
    Truthful lib (traced machines lib t (.activate raw revision)) ↔
      ¬Misreports lib t (.activate raw revision) := by
  have hsource : (traced machines lib t (.activate raw revision)).source =
      if refused lib raw revision = true then t.source else some raw := sourceAfter_eq t
  have hdevice : (traced machines lib t (.activate raw revision)).device =
      activate machines lib raw revision t.device := rfl
  unfold Truthful Misreports
  rw [hsource, hdevice]
  unfold activate
  dsimp only
  cases hrefused : refused lib raw revision with
  | false =>
    simp only [Bool.false_eq_true, if_false, false_and, and_false, not_false_eq_true, iff_true]
    intro other hother
    cases hother
    exact (activateDocument_described machines hrefused t.device.loader t.device.system).2.2
  | true =>
    obtain ⟨error, heq⟩ := activateDocument_refused machines hrefused
      t.device.loader t.device.system
    rw [heq]
    simp only [if_true, true_and]
    cases hsome : t.source with
    | none => simp
    | some other =>
      obtain ⟨hvalid, doc, hdoc, hrevision, hrule, hreport⟩ := ht other hsome
      simp only [Option.some.injEq, Option.isSome_some, true_and, not_not, forall_eq']
      constructor
      · -- the text has one revision, the one that was loaded
        rintro ⟨_, again, hagain, hargument, _⟩
        obtain rfl : doc = again := Option.some.inj (hdoc.symm.trans hagain)
        exact hargument.symm.trans hrevision
      · rintro rfl
        exact ⟨hvalid, doc, hdoc, hrevision, hrule, hreport⟩

/-- The step lemma: a step reports the truth exactly when it does not misreport. -/
theorem traced_truthful (hmachines : machines.Takes) (hs : Working t.device.system)
    (ht : Truthful lib t) (label : Label α) :
    Truthful lib (traced machines lib t label) ↔ ¬Misreports lib t label := by
  have hother (h : ∀ raw revision, label ≠ .activate raw revision) :
      Truthful lib { t with device := step machines lib t.device label } :=
    fun raw hraw => (ht raw hraw).kept (step_ruleKept hmachines hs h)
  cases label with
  | loop others => exact ⟨fun _ h => h, fun _ => hother nofun⟩
  | setValue value => exact ⟨fun _ h => h, fun _ => hother nofun⟩
  | injectFault faultCode => exact ⟨fun _ h => h, fun _ => hother nofun⟩
  | recover => exact ⟨fun _ h => h, fun _ => hother nofun⟩
  | disable => exact ⟨fun _ h => h, fun _ => hother nofun⟩
  | activate raw revision => exact activate_truthful ht

/-- After `setup` the loader tells the truth. -/
theorem start_truthful (raw : String) (revision : ℕ) :
    Truthful lib (start machines lib raw revision) := by
  have hempty : Truthful lib ({ device := { system := wired machines } } : Traced α) := nofun
  have hactivated : Truthful lib (traced machines lib _ (.activate raw revision)) :=
    (activate_truthful hempty).mpr fun h => by cases h.1
  intro other hother
  exact hactivated other hother

/-- Along every run the loader describes the text that the rule in force came from
exactly as long as no step misreports, and an activation that fails leaves rule
and policy as they are. -/
theorem diagnostics_run (machines : Machines RuntimeState RuntimeEvent) (hmachines : machines.Takes)
    (lib : NumberLibrary α) (raw : String) (revision : ℕ) (labels : List (Label α)) :
    let t := start machines lib raw revision
    Truthful lib t ∧
    (Throughout (traced machines lib) (fun t label => Truthful lib (traced machines lib t label)) t
        labels ↔
      Throughout (traced machines lib) (fun t label => ¬Misreports lib t label) t labels) ∧
    let e := run (traced machines lib) t labels
    ∀ document argument error, (activateDocument machines lib document argument e.device.loader
        e.device.system).2 = .error error →
      (activateDocument machines lib document argument e.device.loader e.device.system).1.2 =
        e.device.system := by
  intro t
  have hworking : Working t.device.system := (setup_working hmachines raw revision).1
  have htruthful : Truthful lib t := start_truthful raw revision
  refine ⟨htruthful, ?_, ?_⟩
  · refine throughout_congr (I := fun t => Working t.device.system ∧ Truthful lib t) ?_ ?_
      ⟨hworking, htruthful⟩ labels
    · rintro t label ⟨hs, _⟩ hnext
      exact ⟨step_working hmachines hs label, hnext⟩
    · rintro t label ⟨hs, ht⟩
      exact traced_truthful hmachines hs ht label
  · intro e document argument error herror
    cases hrefused : refused lib document argument with
    | false =>
      have hok := (activateDocument_described machines hrefused e.device.loader
        e.device.system).1
      rw [hok] at herror
      cases herror
    | true =>
      obtain ⟨_, heq⟩ := activateDocument_refused machines hrefused e.device.loader
        e.device.system
      rw [heq]

/-- An activation that fails with the loaded revision is reported truly. -/
theorem diagnostics_sample :
    let t := start sampleMachines sampleLibrary sampleConfiguration 1
    Throughout (traced sampleMachines sampleLibrary)
      (fun t label => Truthful sampleLibrary (traced sampleMachines sampleLibrary t label)) t
      [.loop quiet, .activate "\x7b" 1] :=
  ((diagnostics_run sampleMachines sampleMachines_takes sampleLibrary sampleConfiguration 1
    [.loop quiet, .activate "\x7b" 1]).2.1).mpr
      ⟨nofun, fun h => h.2.2 (by decide +kernel), trivial⟩

/-- A text that does not parse comes with revision 2 after a success with revision
1: the loader reports 2, and the rule is that of revision 1. -/
theorem diagnostics_overwritten :
    ¬ ∀ (machines : Machines RuntimeState RuntimeEvent), machines.Takes →
      ∀ (lib : NumberLibrary ℕ) (raw : String) (revision : ℕ) (labels : List (Label ℕ)),
        Truthful lib (run (traced machines lib) (start machines lib raw revision) labels) := by
  intro h
  obtain ⟨_, doc, hdoc, hread, _⟩ := h sampleMachines sampleMachines_takes sampleLibrary
    sampleConfiguration 1 [.activate "\x7b" 2] sampleConfiguration (by decide +kernel)
  have hrevision : (sampleLibrary.deserializeJson JSON_CAPACITY sampleConfiguration).map
      (fun doc => (doc.member "revision").asUInt 32) = some 1 := by
    decide +kernel
  have hloaded : (run (traced sampleMachines sampleLibrary)
      (start sampleMachines sampleLibrary sampleConfiguration 1)
        [.activate "\x7b" 2]).device.loader.loadedRevision = 2 := by
    decide +kernel
  rw [hdoc, Option.map_some, hread, hloaded] at hrevision
  have hequal : 2 = 1 := Option.some.inj hrevision
  exact absurd hequal (by decide)

end ProjEsp32.RuleDiagnostics
