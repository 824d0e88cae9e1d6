import ProjEsp32.ConfigurationClients
import ProjEsp32.ControlLoop

/-!
# The configuration over the life of the device

The device is switched on, configured, rolled back and switched off in any order, with
power lost in the middle of a commit or of a boot, while its control loop runs. Whatever
happens, the configuration that governs it is the one that the next boot would load, and
a boot that meets no fault puts it in force again.
-/

namespace ProjEsp32.ConfigurationLifecycle

open ArduinoJson CheckedResult ConfigurationActivation ConfigurationDocument ConfigurationRuns
open ConfigurationStore LocalSchedules MachineLibrary RuleEvaluation RuleExecution RuleLoading
open TransitionRuns TwoSlots
open ConfigurationClients (Call)
open ControlLoop (Working)

variable {α : Type} [Zero α] [LT α] [DecidableLT α]

/-- The device: its store, its control loop and its schedule. -/
structure Device (α : Type) [Zero α] where
  /-- The configuration store. -/
  store : Store := {}
  /-- The control loop. -/
  control : ControlLoop.Device α := {}
  /-- The schedule service. -/
  schedule : LocalScheduleService := {}
  /-- `setup` has come to its end. -/
  up : Bool := false

/-- What happens to the control loop by itself: no activation. -/
structure Stimulus (α : Type) where
  /-- What happens to the control loop. -/
  label : ControlLoop.Label α
  /-- It is no activation. -/
  spontaneous : ∀ raw revision, label ≠ .activate raw revision

/-- An event in the life of the device; a call of the store comes with the time and
the answer of the task scheduler that its activation meets. -/
inductive Label (α : Type) where
  | boot (faults : Faults) (accepted : Bool)
  | powerOff
  | call (call : Call) (accepted : Bool)
  | control (stimulus : Stimulus α)
  | schedulePass (due ok : Bool)

namespace Device

/-- What an activation configures. -/
def running (d : Device α) : Running α where
  loader := d.control.loader
  system := d.control.system
  schedule := d.schedule

/-- Power is lost: the preferences are left. -/
def off (store : Store) : Device α where
  store := store.powerLost store.nvs

/-- `activatePersistedConfiguration`, called back with a revision and its text. -/
def activate (machines : RunningMachines) (lib : NumberLibrary α) (accepted : Bool)
    (revision : ℕ) (raw : String) (d : Device α) : Device α :=
  let activated :=
    (activatePersistedConfiguration machines lib accepted revision raw d.running).1
  { d with
    control := { d.control with loader := activated.loader, system := activated.system }
    schedule := activated.schedule }

end Device

/-- `activeJson`. -/
def activeJson (ram : Ram) : String := if ram.configReady then ram.activeRaw else "\x7b\x7d"

/-- `revision`. -/
def revision (ram : Ram) : ℕ := if ram.configReady then ram.activeRevision else 0

/-- The part of `setup` that comes after `begin` has returned. -/
def wire (machines : RunningMachines) (lib : NumberLibrary α) (locks accepted : Bool)
    (begun : Store) : Device α :=
  let store := setLifecycleCallbacks locks (some (validatePersistedConfiguration lib)) true begun
  { store
    control := ControlLoop.setup machines.rules lib (activeJson store.ram) (revision store.ram)
    schedule := (LocalSchedules.begin.activateDocument machines.schedules lib.toJsonLibrary
      accepted (activeJson store.ram) (revision store.ram)).1
    up := true }

/-- `setup`, as far as the configuration is concerned. No other task holds the mutex of
the store yet: it is acquired each time or, when there is none, never. -/
def setup (machines : RunningMachines) (lib : NumberLibrary α) (faults : Faults)
    (accepted : Bool) (d : Device α) : Device α :=
  match ConfigurationStore.begin lib.toJsonLibrary faults { d.store with ram := {} } with
  | (store, none) => .off store
  | (store, some _) => wire machines lib faults.locks accepted store

/-- A call of the store, with the activation that a commit calls back. -/
def clientCall (machines : RunningMachines) (lib : NumberLibrary α) (call : Call)
    (accepted : Bool) (d : Device α) : Device α :=
  let store := ConfigurationRuns.step lib.toJsonLibrary d.store call.event
  match returned lib.toJsonLibrary d.store call.event with
  | none => .off store
  | some (.error _) => { d with store }
  | some (.ok _) =>
    if store.ram.activatedCallback then
      { d with store }.activate machines lib accepted store.ram.activeRevision
        store.ram.activeRaw
    else { d with store }

/-- One event; a device that is not up only boots. -/
def step (machines : RunningMachines) (lib : NumberLibrary α) (d : Device α) :
    Label α → Device α
  | .boot faults accepted => setup machines lib faults accepted d
  | .powerOff => .off d.store
  | .call call accepted =>
    if !d.up then d else clientCall machines lib call accepted d
  | .control stimulus =>
    if !d.up then d
    else { d with control := ControlLoop.step machines.rules lib d.control stimulus.label }
  | .schedulePass due ok =>
    if !d.up then d else { d with schedule := d.schedule.pass machines.schedules due ok }

/-! ### What is in force -/

/-- The engine has the rule of a document and the runtime its fault policy; without a
rule the engine is not configured. -/
def Rules (lib : NumberLibrary α) (s : System α) : List (Json α) → Prop
  | [] => s.engine.configured = false ∧ s.runtime.faultPolicy = .SafeOff
  | object::rest => rest = [] ∧ s.engine.configured = true ∧
      s.engine.rule = documentRule lib object ∧ AsksForPolicy object s.runtime.faultPolicy

/-- A text governs the device, under a revision. -/
structure Governs (lib : NumberLibrary α) (raw : String) (revision : ℕ) (d : Device α) :
    Prop where
  /-- The loader has loaded this revision. -/
  loader : d.control.loader.loadedRevision = revision
  /-- And so has the schedule service. -/
  schedule : d.schedule.loadedRevision = revision
  /-- The rule, the policy and the schedule are those of the document. -/
  document : ∃ doc, lib.deserializeJson RuleLoading.JSON_CAPACITY raw = some doc ∧
    Rules lib d.control.system (doc.member "rules").asArray ∧
    ScheduleInForce d.schedule (doc.member "schedules").asArray

/-- The document of a store that has none. -/
def defaultDocument : Json α :=
  .obj [("schema", .int SCHEMA_VERSION), ("revision", .int 0), ("rules", .arr []),
    ("schedules", .arr [])]

/-- The library reads back the default document that it writes, into documents of the
capacities that are used. -/
structure ReadsDefault (lib : NumberLibrary α) : Prop where
  /-- The default configuration is the text that is expected. -/
  text : ArduinoText.cString (defaultConfiguration lib.toJsonLibrary) =
    defaultConfiguration lib.toJsonLibrary
  /-- It fits into a slot. -/
  size : sizeInvalid (defaultConfiguration lib.toJsonLibrary) = false
  /-- It is read by the store. -/
  stored : lib.deserializeJson ConfigurationDocument.JSON_CAPACITY
    (defaultConfiguration lib.toJsonLibrary) = some defaultDocument
  /-- By the loader of the rule. -/
  loaded : lib.deserializeJson RuleLoading.JSON_CAPACITY
    (defaultConfiguration lib.toJsonLibrary) = some defaultDocument
  /-- And by the schedule service. -/
  scheduled : lib.deserializeJson LocalSchedules.JSON_CAPACITY
    (defaultConfiguration lib.toJsonLibrary) = some defaultDocument

variable {machines : RunningMachines} {lib : NumberLibrary α} {d : Device α}

omit [Zero α] [LT α] [DecidableLT α] in
/-- The default document is read, with no rule and no schedule. -/
theorem ReadsDefault.reads (h : ReadsDefault lib) :
    Reads lib.toJsonLibrary (defaultConfiguration lib.toJsonLibrary) 0 := by
  refine ⟨h.text, ?_⟩
  have hparse : parseStored lib.toJsonLibrary (defaultConfiguration lib.toJsonLibrary) =
      .ok (defaultDocument, 0) := by
    unfold parseStored
    rw [h.size, h.stored]
    rfl
  unfold loadText
  rw [hparse]

/-- The default document is validated. -/
theorem ReadsDefault.validated (h : ReadsDefault lib) :
    validatePersistedConfiguration lib (defaultConfiguration lib.toJsonLibrary) = .ok () := by
  unfold validatePersistedConfiguration RuleLoading.validateDocument RuleLoading.parseDocument
    LocalSchedules.validateDocument LocalSchedules.parseDocument
  rw [h.loaded, h.scheduled]
  rfl

/-! ### What a boot loads -/

omit [Zero α] [LT α] [DecidableLT α] in
/-- From consistent preferences a boot loads some document. -/
theorem afterReboot_exists (hdefault : ReadsDefault lib) {s : Store}
    (hs : Consistent lib.toJsonLibrary s) :
    ∃ active, afterReboot lib.toJsonLibrary s.nvs = some active := by
  cases hload : loadSlot lib.toJsonLibrary s.nvs (selectedSlot s.nvs) with
  | some active => exact ⟨active, afterReboot_selected hs.pointer hload⟩
  | none =>
    obtain ⟨hzero, hother, -⟩ := hs.blank hload
    exact ⟨_, (afterReboot_blank hzero (hzero ▸ hload) hother _).mpr ⟨hdefault.reads, rfl⟩⟩

omit [Zero α] [LT α] [DecidableLT α] in
/-- The document that a boot loads carries its revision. -/
theorem carries_of_afterReboot {s : Store} (hs : Consistent lib.toJsonLibrary s)
    {active : String × ℕ} (h : afterReboot lib.toJsonLibrary s.nvs = some active) :
    Carries lib active.1 active.2 := by
  obtain ⟨document, hread, hvalid, hrevision⟩ := document_of_loadText (loadText_of_afterReboot hs h)
  refine ⟨document, hread, ?_, hrevision.symm⟩
  unfold ConfigurationDocument.validateDocument at hvalid
  simp only [bind_eq_ok, refuseIf_eq_ok, Bool.true_and, Bool.not_eq_false'] at hvalid
  obtain ⟨_, _, _, _, _, hnumber, _⟩ := hvalid
  exact hnumber

omit [LT α] [DecidableLT α] in
/-- What is in force governs. -/
theorem governs_of_inForce {raw : String} {revision : ℕ}
    (h : InForce lib raw revision d.running) : Governs lib raw revision d := by
  obtain ⟨hloader, hschedule, doc, hdoc, hrule, hforce⟩ := h
  refine ⟨hloader, hschedule, doc, hdoc, ?_, hforce⟩
  generalize (doc.member "rules").asArray = rules at hrule
  cases rules with
  | nil =>
    obtain ⟨hengine, hpolicy⟩ := hrule
    refine ⟨?_, hpolicy⟩
    change d.control.system.engine = .clear at hengine
    rw [hengine]
    rfl
  | cons object rest => exact hrule

/-- A validated text governs once it is activated. -/
theorem activate_governs {raw : String} {revision : ℕ}
    (hvalid : validatePersistedConfiguration lib raw = .ok ()) (hcarries : Carries lib raw revision)
    (accepted : Bool) (d : Device α) :
    Governs lib raw revision (d.activate machines lib accepted revision raw) :=
  governs_of_inForce (activate_of_validated machines hvalid hcarries accepted d.running).1

/-! ### What the control loop leaves -/

/-- The rule, whether there is one, and the fault policy are as they were. -/
structure Governed (s t : System α) : Prop where
  /-- The rule stays. -/
  rule : t.engine.rule = s.engine.rule
  /-- The engine stays configured, or not. -/
  configured : t.engine.configured = s.engine.configured
  /-- The policy stays. -/
  faultPolicy : t.runtime.faultPolicy = s.runtime.faultPolicy

omit [LT α] [DecidableLT α] in
/-- What governs after two calls governed before the first. -/
theorem Governed.trans {s t u : System α} (h : Governed s t) (hnext : Governed t u) :
    Governed s u where
  rule := hnext.rule.trans h.rule
  configured := hnext.configured.trans h.configured
  faultPolicy := hnext.faultPolicy.trans h.faultPolicy

omit [LT α] [DecidableLT α] in
/-- What is the same for the rule is governed alike. -/
theorem governed_of_same {s t : System α} (h : Same s t) : Governed s t :=
  ⟨h.rule, h.configured, h.faultPolicy⟩

/-- A pass of the scheduler. -/
theorem pass_governed (hmachines : machines.rules.Takes) {s : System α} (hs : Working s)
    (others : ControlLoop.OtherPosts) : Governed s (ControlLoop.pass machines.rules others s) := by
  by_cases hready : s.runtime.evaluationTask.ready = true
  · obtain ⟨t, hexecuted, heq⟩ := ControlLoop.pass_of_ready hmachines hs hready others
    rw [heq]
    exact ⟨hexecuted.same.rule, hexecuted.same.configured, hexecuted.same.faultPolicy⟩
  · obtain ⟨task, -, heq⟩ := ControlLoop.pass_of_not_ready machines.rules hready others
    rw [heq]
    exact ⟨rfl, rfl, rfl⟩

omit [LT α] [DecidableLT α] in
/-- The events of a turn of the main loop. -/
theorem process_governed (hmachines : machines.rules.Takes) {s : System α} (hs : Working s)
    (maxEvents : ℕ) : Governed s (ControlLoop.process machines.rules maxEvents s) := by
  have hevent (t : System α) (event : RuntimeCore.Event)
      (rest : RuntimeCore.EventBus Handler) (ht : Working t) (hgoverned : Governed s t)
      (hpop : t.events.pop = some (event, rest)) :
      Governed s (System.handleEvent machines.rules event { t with events := rest }) := by
    have hpopped : Governed s { t with events := rest } :=
      ⟨hgoverned.rule, hgoverned.configured, hgoverned.faultPolicy⟩
    rcases ControlLoop.handleEvent_cases hmachines
      (ControlLoop.working_popped ht hpop).steady event with ⟨-, heq⟩ | ⟨-, hrequested⟩
    · rw [heq]
      exact hpopped
    · exact hpopped.trans (governed_of_same hrequested.kept.same)
  exact (ControlLoop.process_invariant hmachines hevent hs ⟨rfl, rfl, rfl⟩ maxEvents).2

/-- Nothing that happens to the control loop by itself changes what governs it. -/
theorem control_governed (lib : NumberLibrary α) (hmachines : machines.rules.Takes)
    {c : ControlLoop.Device α}
    (hc : Working c.system) (stimulus : Stimulus α) :
    Governed c.system (ControlLoop.step machines.rules lib c stimulus.label).system ∧
      (ControlLoop.step machines.rules lib c stimulus.label).loader = c.loader := by
  obtain ⟨label, hspontaneous⟩ := stimulus
  cases label with
  | loop others =>
    rw [ControlLoop.step]
    cases c.phase with
    | pass => exact ⟨pass_governed hmachines hc others, rfl⟩
    | process => exact ⟨process_governed hmachines hc 8, rfl⟩
  | setValue | injectFault | recover | disable => exact ⟨⟨rfl, rfl, rfl⟩, rfl⟩
  | activate raw revision => exact absurd rfl (hspontaneous raw revision)

/-- Nor does a pass over the schedule. -/
theorem pass_kept (machines : Machines ScheduleState ScheduleEvent) (due ok : Bool)
    (s : LocalScheduleService) : (s.pass machines due ok).loadedRevision = s.loadedRevision ∧
      (s.pass machines due ok).configured = s.configured ∧
      (s.pass machines due ok).action = s.action := by
  unfold LocalScheduleService.pass
  dsimp only
  split
  · unfold LocalScheduleService.executeAction
    dsimp only
    split <;> exact ⟨rfl, rfl, rfl⟩
  · exact ⟨rfl, rfl, rfl⟩

omit [LT α] [DecidableLT α] in
/-- What governs goes on governing. -/
theorem Governs.keep {e : Device α} {raw : String} {revision : ℕ} (h : Governs lib raw revision d)
    (hsystem : Governed d.control.system e.control.system)
    (hloader : e.control.loader = d.control.loader)
    (hrevision : e.schedule.loadedRevision = d.schedule.loadedRevision)
    (hconfigured : e.schedule.configured = d.schedule.configured)
    (haction : e.schedule.action = d.schedule.action) : Governs lib raw revision e := by
  obtain ⟨hloaded, hscheduled, doc, hdoc, hrules, hschedule⟩ := h
  refine ⟨?_, hrevision.trans hscheduled, doc, hdoc, ?_, ?_⟩
  · rw [hloader]
    exact hloaded
  · generalize (doc.member "rules").asArray = rules at hrules
    cases rules with
    | nil => exact ⟨hsystem.configured.trans hrules.1, hsystem.faultPolicy.trans hrules.2⟩
    | cons object rest =>
      obtain ⟨hrest, hthere, hrule, hpolicy⟩ := hrules
      refine ⟨hrest, hsystem.configured.trans hthere, hsystem.rule.trans hrule, ?_⟩
      rw [hsystem.faultPolicy]
      exact hpolicy
  · generalize (doc.member "schedules").asArray = schedules at hschedule
    cases schedules with
    | nil => exact ⟨hconfigured.trans hschedule.1, haction.trans hschedule.2⟩
    | cons object rest =>
      obtain ⟨hrest, hthere, hasked⟩ := hschedule
      exact ⟨hrest, hconfigured.trans hthere, haction.trans hasked⟩

/-! ### What every event keeps -/

/-- What holds at any time: the document that a boot would load is valid, and while the
device is up with a store that is ready, its document governs. -/
structure Alive (lib : NumberLibrary α) (d : Device α) : Prop where
  /-- The store is consistent. -/
  consistent : Consistent lib.toJsonLibrary d.store
  /-- The services accept what the next boot finds. -/
  validated : ∀ active, afterReboot lib.toJsonLibrary d.store.nvs = some active →
    validatePersistedConfiguration lib active.1 = .ok ()
  /-- While the device is up, its rule system works. -/
  working : d.up = true → Working d.control.system
  /-- A store that is in use is wired to the services. -/
  wired : d.up = true → d.store.ram.configReady = true → Wired lib d.store.ram
  /-- And its active configuration governs them. -/
  governed : d.up = true → d.store.ram.configReady = true →
    Governs lib d.store.ram.activeRaw d.store.ram.activeRevision d

/-- Without power the preferences are left. -/
theorem alive_off {store : Store} (hconsistent : Consistent lib.toJsonLibrary store)
    (hvalidated : ∀ active, afterReboot lib.toJsonLibrary store.nvs = some active →
      validatePersistedConfiguration lib active.1 = .ok ()) : Alive lib (Device.off store) where
  consistent := hconsistent.forget rfl rfl
  validated := hvalidated
  working := nofun
  wired := nofun
  governed := nofun

omit [Zero α] [LT α] [DecidableLT α] in
/-- Without a mutex a boot does not make the store ready. -/
theorem locks_of_ready (lib : NumberLibrary α) (faults : Faults) (nvs : Nvs)
    (activations : List (ℕ × String)) (hready : (ConfigurationStore.begin lib.toJsonLibrary faults
      { nvs, activations }).1.ram.configReady = true) : faults.locks = true := by
  by_contra hlocks
  have hkept : ConfigurationStore.begin lib.toJsonLibrary faults { nvs, activations } =
      ({ nvs, activations }, some false) := by
    unfold ConfigurationStore.begin
    rw [if_pos (by simpa using hlocks)]
  rw [hkept] at hready
  cases hready

/-- The callbacks leave the document in memory alone. -/
theorem wire_store (machines : RunningMachines) (lib : NumberLibrary α) (locks accepted : Bool)
    (begun : Store) :
    (wire machines lib locks accepted begun).store.nvs = begun.nvs ∧
      (wire machines lib locks accepted begun).store.ram.configReady = begun.ram.configReady ∧
      (wire machines lib locks accepted begun).store.ram.activeSlot = begun.ram.activeSlot ∧
      (wire machines lib locks accepted begun).store.ram.activeRaw = begun.ram.activeRaw ∧
      (wire machines lib locks accepted begun).store.ram.activeRevision =
        begun.ram.activeRevision := by
  unfold wire setLifecycleCallbacks
  cases locks <;> exact ⟨rfl, rfl, rfl, rfl, rfl⟩

/-- A document in memory that is valid governs at the end of `setup`. -/
theorem wire_governs (machines : RunningMachines) (locks accepted : Bool)
    {begun : Store} (hready : begun.ram.configReady = true)
    (hvalid : validatePersistedConfiguration lib begun.ram.activeRaw = .ok ())
    (hcarries : Carries lib begun.ram.activeRaw begun.ram.activeRevision) :
    Governs lib begun.ram.activeRaw begun.ram.activeRevision
      (wire machines lib locks accepted begun) := by
  let wired : Running α := { system := ControlLoop.wired machines.rules }
  let store :=
    setLifecycleCallbacks locks (some (validatePersistedConfiguration lib)) true begun
  obtain ⟨-, hstill, -, hraw, hrevision⟩ := wire_store machines lib locks accepted begun
  have hjson : activeJson store.ram = begun.ram.activeRaw :=
    (if_pos (hstill.trans hready)).trans hraw
  have hnumber : revision store.ram = begun.ram.activeRevision :=
    (if_pos (hstill.trans hready)).trans hrevision
  have hforce := (activate_of_validated machines hvalid hcarries accepted wired).1
  let activated :=
    (activatePersistedConfiguration machines lib accepted begun.ram.activeRevision
      begun.ram.activeRaw wired).1
  let before : Device α :=
    { control := { loader := activated.loader, system := activated.system }
      schedule := activated.schedule }
  have hbefore : Governs lib begun.ram.activeRaw begun.ram.activeRevision before :=
    governs_of_inForce hforce
  -- the supervisor's first post comes after the activation
  have hwire : wire machines lib locks accepted begun =
      { store
        control := ControlLoop.setup machines.rules lib (activeJson store.ram) (revision store.ram)
        schedule := (LocalSchedules.begin.activateDocument machines.schedules lib.toJsonLibrary
          accepted (activeJson store.ram) (revision store.ram)).1
        up := true } := rfl
  rw [hwire, hjson, hnumber]
  exact hbefore.keep ⟨rfl, rfl, rfl⟩ rfl rfl rfl rfl

/-- A boot, whatever it meets. -/
theorem alive_setup (hmachines : machines.rules.Takes) (hdefault : ReadsDefault lib)
    (hd : Alive lib d) (faults : Faults) (accepted : Bool) :
    Alive lib (setup machines lib faults accepted d) := by
  have hreset : Consistent lib.toJsonLibrary { d.store with ram := {} } :=
    hd.consistent.forget rfl rfl
  have hbooted := begin_spec faults hreset
  have hvalidated (active : String × ℕ) (hactive : afterReboot lib.toJsonLibrary
      (ConfigurationStore.begin lib.toJsonLibrary faults { d.store with ram := {} }).1.nvs =
        some active) : validatePersistedConfiguration lib active.1 = .ok () := by
    obtain ⟨before, hbefore⟩ := afterReboot_exists hdefault hreset
    have hsame := hbooted.nvs before hbefore
    obtain rfl : before = active := Option.some.inj (hsame.symm.trans hactive)
    exact hd.validated before hbefore
  have hlocks := locks_of_ready lib faults d.store.nvs d.store.activations
  have hconsistent := hbooted.consistent
  unfold setup
  generalize ConfigurationStore.begin lib.toJsonLibrary faults { d.store with ram := {} } = begun
    at hvalidated hlocks hconsistent
  obtain ⟨store, _ | answer⟩ := begun
  · exact alive_off hconsistent hvalidated
  · obtain ⟨hnvs, hready, hslot, hraw, hrevision⟩ :=
      wire_store machines lib faults.locks accepted store
    refine ⟨⟨?_, ?_, ?_⟩, ?_, fun _ => ?_, fun _ hup => ?_, fun _ hup => ?_⟩
    · rw [hnvs]
      exact hconsistent.pointer
    · rw [hnvs, hready]
      exact hconsistent.blank
    · rw [hnvs, hready, hslot, hraw, hrevision]
      exact hconsistent.ready
    · rw [hnvs]
      exact hvalidated
    · exact (ControlLoop.setup_working hmachines _ _).1
    · rw [hready] at hup
      have hmutex := hlocks hup
      unfold wire setLifecycleCallbacks
      rw [hmutex]
      exact ⟨rfl, rfl⟩
    · rw [hready] at hup
      have hactive : afterReboot lib.toJsonLibrary store.nvs =
          some (store.ram.activeRaw, store.ram.activeRevision) := by
        rw [← hconsistent.ramActive hup, ramActive, if_pos hup]
      rw [hraw, hrevision]
      exact wire_governs machines faults.locks accepted hup (hvalidated _ hactive)
        (carries_of_afterReboot hconsistent hactive)

omit [Zero α] [LT α] [DecidableLT α] in
/-- A call of the store is refused or activates a text. -/
theorem called_of_call (lib : NumberLibrary α) (store : Store) (call : Call) :
    Called lib.toJsonLibrary store call.event := by
  cases call with
  | apply faults candidateJson => exact called_apply lib.toJsonLibrary store faults candidateJson
  | rollback faults => exact called_rollback lib.toJsonLibrary store faults

/-- A call of the store, whatever it meets. -/
theorem alive_clientCall (hmachines : machines.rules.Takes) (hd : Alive lib d)
    (hup : d.up = true) (call : Call) (accepted : Bool) :
    Alive lib (clientCall machines lib call accepted d) := by
  have hhanded (hwired : Wired lib d.store.ram)
      (hreturned : returned lib.toJsonLibrary d.store call.event = some (.ok ())) :
      Handed lib d.store (ConfigurationRuns.step lib.toJsonLibrary d.store call.event) :=
    handed_of_returned hwired hreturned
  unfold clientCall
  rcases called_of_call lib d.store call with ⟨error, hstep, hanswer⟩ |
      ⟨faults, revision, raw, result, hnext, hchecked, -, hstep, hanswer⟩
  · -- nothing to commit was found
    rw [hstep, hanswer]
    exact ⟨hd.consistent, hd.validated, hd.working, hd.wired,
      fun hup hready => (hd.governed hup hready).keep ⟨rfl, rfl, rfl⟩ rfl rfl rfl rfl⟩
  · obtain ⟨hready, -⟩ := nextRevision_eq_ok hnext
    have hwired := hd.wired hup hready
    obtain ⟨hconsistent, hdone⟩ := ConfigurationRuns.activate_spec faults raw revision result
      hd.consistent hready
    rw [← hstep] at hconsistent
    rw [← hstep, ← hanswer] at hdone
    have hvalid : validatePersistedConfiguration lib raw = .ok () := by
      rw [hwired.validator] at hchecked
      exact validated_of_checkSemantics hchecked
    generalize ConfigurationRuns.step lib.toJsonLibrary d.store call.event = store at *
    generalize returned lib.toJsonLibrary d.store call.event = answer at *
    rcases hdone with hkept | htaken
    · have hvalidated (active : String × ℕ)
          (hactive : afterReboot lib.toJsonLibrary store.nvs = some active) :
          validatePersistedConfiguration lib active.1 = .ok () := by
        rw [hkept.nvs] at hactive
        exact hd.validated active hactive
      rcases hkept.answer with rfl | ⟨error, rfl, hram⟩
      · exact alive_off hconsistent hvalidated
      · refine ⟨hconsistent, hvalidated, hd.working, fun _ hstill => ?_, fun _ hstill => ?_⟩
        · change Wired lib store.ram
          rw [hram]
          exact hwired
        · change Governs lib store.ram.activeRaw store.ram.activeRevision { d with store }
          rw [hram]
          exact (hd.governed hup hready).keep ⟨rfl, rfl, rfl⟩ rfl rfl rfl rfl
    · have hvalidated (active : String × ℕ)
          (hactive : afterReboot lib.toJsonLibrary store.nvs = some active) :
          validatePersistedConfiguration lib active.1 = .ok () := by
        obtain rfl := Option.some.inj (htaken.nvs.symm.trans hactive)
        exact hvalid
      rcases htaken.answer with ⟨rfl, -⟩ | ⟨rfl, hram, -⟩
      · exact alive_off hconsistent hvalidated
      · have hnow := hhanded hwired rfl
        dsimp only
        rw [if_pos hnow.wired.activated]
        refine ⟨hconsistent, hvalidated, fun _ => ?_, fun _ _ => hnow.wired, fun _ _ => ?_⟩
        · have hworking : Working (ControlLoop.activate machines.rules lib store.ram.activeRaw
              store.ram.activeRevision d.control).system :=
            ControlLoop.working_activate hmachines _ _ (hd.working hup)
          exact hworking
        · exact activate_governs hnow.validated hnow.carries accepted { d with store }

/-- The step lemma. -/
theorem alive_step (hmachines : machines.rules.Takes) (hdefault : ReadsDefault lib)
    (hd : Alive lib d) (label : Label α) : Alive lib (step machines lib d label) := by
  cases label with
  | boot faults accepted => exact alive_setup hmachines hdefault hd faults accepted
  | powerOff => exact alive_off hd.consistent hd.validated
  | call call accepted =>
    by_cases hup : d.up = true
    · rw [step, if_neg (by simp [hup])]
      exact alive_clientCall hmachines hd hup call accepted
    · rw [step, if_pos (by simp [hup])]
      exact hd
  | control stimulus =>
    by_cases hup : d.up = true
    · obtain ⟨hgoverned, hloader⟩ := control_governed lib hmachines (hd.working hup) stimulus
      rw [step, if_neg (by simp [hup])]
      refine ⟨hd.consistent, hd.validated, fun _ => ?_, hd.wired, fun hup hready => ?_⟩
      · exact ControlLoop.step_working hmachines (hd.working hup) stimulus.label
      · exact (hd.governed hup hready).keep hgoverned hloader rfl rfl rfl
    · rw [step, if_pos (by simp [hup])]
      exact hd
  | schedulePass due ok =>
    by_cases hup : d.up = true
    · obtain ⟨hrevision, hconfigured, haction⟩ := pass_kept machines.schedules due ok d.schedule
      rw [step, if_neg (by simp [hup])]
      exact ⟨hd.consistent, hd.validated, hd.working, hd.wired, fun hup hready =>
        (hd.governed hup hready).keep ⟨rfl, rfl, rfl⟩ rfl hrevision hconfigured haction⟩
    · rw [step, if_pos (by simp [hup])]
      exact hd

omit [Zero α] [LT α] [DecidableLT α] in
/-- A device that is new: its preferences are erased. -/
theorem afterReboot_erased (hdefault : ReadsDefault lib) :
    afterReboot lib.toJsonLibrary {} = some (defaultConfiguration lib.toJsonLibrary, 0) :=
  (afterReboot_blank rfl (by rfl) (by rfl) _).mpr ⟨hdefault.reads, rfl⟩

omit [Zero α] [LT α] [DecidableLT α] in
/-- What a boot leaves in memory does not depend on the activations so far, and is nothing
when power is lost in it. -/
theorem begin_ram (lib : NumberLibrary α) (faults : Faults) (nvs : Nvs)
    (activations : List (ℕ × String)) :
    let begun := ConfigurationStore.begin lib.toJsonLibrary faults { nvs, activations }
    begun.1.ram = (ConfigurationStore.begin lib.toJsonLibrary faults { nvs }).1.ram ∧
      (begun.2 = none → begun.1.ram.configReady = false) := by
  unfold ConfigurationStore.begin
  dsimp only
  split
  · exact ⟨rfl, nofun⟩
  split
  · exact ⟨rfl, nofun⟩
  split
  · exact ⟨rfl, nofun⟩
  split
  · split
    · exact ⟨rfl, fun _ => rfl⟩
    · exact ⟨rfl, nofun⟩
    · exact ⟨rfl, nofun⟩
  · split
    · exact ⟨rfl, fun _ => rfl⟩
    · exact ⟨rfl, nofun⟩
    · split
      · exact ⟨rfl, fun _ => rfl⟩
      · exact ⟨rfl, nofun⟩

/-- A boot that meets no fault: the document that the preferences select governs. -/
theorem boot_governs (hmachines : machines.rules.Takes) (hdefault : ReadsDefault lib)
    (hd : Alive lib d) {active : String × ℕ}
    (hactive : afterReboot lib.toJsonLibrary d.store.nvs = some active) (accepted : Bool) :
    let b := step machines lib d (.boot {} accepted)
    b.up = true ∧ ramActive b.store.ram = some active ∧ Governs lib active.1 active.2 b := by
  intro b
  have hb : Alive lib b := alive_step hmachines hdefault hd (.boot {} accepted)
  obtain ⟨hram, hnone⟩ := begin_ram lib {} d.store.nvs d.store.activations
  have hloaded : ramActive (ConfigurationStore.begin lib.toJsonLibrary {}
      { nvs := d.store.nvs, activations := d.store.activations }).1.ram = some active := by
    rw [hram]
    exact hactive
  have hsetup : b = setup machines lib {} accepted d := rfl
  unfold setup at hsetup
  generalize ConfigurationStore.begin lib.toJsonLibrary {}
    { d.store with ram := {} } = begun at hsetup hnone hloaded
  obtain ⟨store, _ | answer⟩ := begun
  · -- power was not lost: something is in memory
    have hready : store.ram.configReady = false := hnone rfl
    rw [ramActive, if_neg (by simp [hready])] at hloaded
    cases hloaded
  · obtain ⟨-, hready, -, hraw, hrevision⟩ :=
      wire_store machines lib true accepted store
    have hwired : ramActive b.store.ram = some active := by
      rw [hsetup, ← hloaded, ramActive, ramActive, hready, hraw, hrevision]
    have hup : b.up = true := by
      rw [hsetup]
      rfl
    refine ⟨hup, hwired, ?_⟩
    unfold ramActive at hwired
    split at hwired
    · next hstill =>
      obtain rfl := Option.some.inj hwired
      exact hb.governed hup hstill
    · cases hwired

/-- The life of a device. From erased preferences, in every run of boots, calls of the
store, stimuli, turns of the control loop and passes over the schedule, with writes that
fail and with power lost at any of them: while the device is up with a store that is
ready, the rule, the fault policy and the schedule that are in force are those of the
store's document, which is the one that the next boot would load; and there always is
such a document, which a boot without faults puts in force. -/
theorem lifecycle_run (machines : RunningMachines) (hmachines : machines.rules.Takes)
    (lib : NumberLibrary α) (hdefault : ReadsDefault lib) (labels : List (Label α)) :
    let d := run (step machines lib) {} labels
    (d.up = true → d.store.ram.configReady = true →
      Governs lib d.store.ram.activeRaw d.store.ram.activeRevision d ∧
      afterReboot lib.toJsonLibrary d.store.nvs =
        some (d.store.ram.activeRaw, d.store.ram.activeRevision)) ∧
    ∃ active, afterReboot lib.toJsonLibrary d.store.nvs = some active ∧
      ∀ accepted, let b := step machines lib d (.boot {} accepted)
        b.up = true ∧ ramActive b.store.ram = some active ∧ Governs lib active.1 active.2 b := by
  intro d
  have hnew : Alive lib ({} : Device α) := by
    refine ⟨erased_consistent lib.toJsonLibrary, fun active hactive => ?_, nofun, nofun, nofun⟩
    obtain rfl := Option.some.inj ((afterReboot_erased hdefault).symm.trans hactive)
    exact hdefault.validated
  have hd : Alive lib d := run_invariant (I := fun d : Device α => Alive lib d)
    (fun d label hd => alive_step hmachines hdefault hd label) hnew labels
  obtain ⟨active, hactive⟩ := afterReboot_exists hdefault hd.consistent
  refine ⟨fun hup hready => ⟨hd.governed hup hready, ?_⟩, active, hactive, fun accepted =>
    boot_governs hmachines hdefault hd hactive accepted⟩
  rw [← hd.consistent.ramActive hready, ramActive, if_pos hready]

/-- A library that knows two texts: the default document and the sample. -/
def lifecycleLibrary : NumberLibrary ℕ where
  deserializeJson _ raw :=
    if raw = "default" then some defaultDocument
    else if raw = "document" then some sampleDocument else none
  serializeJson document :=
    if (document.member "rules").asArray.isEmpty then "default" else "document"
  setMember _ document _ _ := document
  asFloat
    | .int value => .finite value.toNat
    | _ => .nonfinite

/-- Power is lost after the pointer was written; the next boot puts the text in force that
was being applied. -/
theorem lifecycle_run_sample :
    let d := run (step sampleRunningMachines lifecycleLibrary) {}
      [.boot {} true, .call (.apply { pointerWrite := .cutAfter } "document") true]
    Governs lifecycleLibrary "document" 1
      (step sampleRunningMachines lifecycleLibrary d (.boot {} true)) := by
  intro d
  have hdefault : ReadsDefault lifecycleLibrary := by
    constructor <;> rfl
  obtain ⟨-, active, hactive, hboot⟩ := lifecycle_run sampleRunningMachines
    sampleMachines_takes lifecycleLibrary hdefault
    [.boot {} true, .call (.apply { pointerWrite := .cutAfter } "document") true]
  have hknown : afterReboot lifecycleLibrary.toJsonLibrary d.store.nvs = some ("document", 1) := by
    decide +kernel
  obtain rfl := Option.some.inj (hactive.symm.trans hknown)
  exact (hboot true).2.2

end ProjEsp32.ConfigurationLifecycle
