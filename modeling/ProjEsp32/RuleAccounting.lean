import Mathlib.Data.Nat.ModEq
import ProjEsp32.ProvidedRuntime

/-!
# The books of the rule runtime

The runtime counts what becomes of the requests for an evaluation, in seven 32-bit counters
that its status reports. The runtime with its counters does what it does without them, and
the counters are in balance: every request has been refused, has found the task enabled, or
has scheduled an evaluation; and every evaluation that was scheduled has been carried out
once, was cancelled by a refresh, or still waits.
-/

namespace ProjEsp32.RuleAccounting

open CooperativeTask MachineEntries ProvidedRuntime RuleEvaluation RuntimeCore TransitionRuns
open RuleExecution (Handler RuntimeState RuntimeEvent)

variable {α : Type} [Zero α]

/-- The counters of the runtime. -/
structure Counters where
  /-- The requests. -/
  requestCount : ℕ := 0
  /-- Those that scheduled an evaluation. -/
  scheduledCount : ℕ := 0
  /-- Those that found the task enabled. -/
  coalescedCount : ℕ := 0
  /-- The evaluations whose decision was carried out. -/
  completedCount : ℕ := 0
  /-- The requests and the evaluations that were rejected. -/
  rejectedCount : ℕ := 0
  /-- The evaluations that took up the fault policy. -/
  policyActionCount : ℕ := 0
  /-- Those of them that raised an alarm. -/
  alarmCount : ℕ := 0
  deriving DecidableEq

/-- An increment of a 32-bit counter. -/
def bump (count : ℕ) : ℕ := (count + 1) % 2^32

/-- What becomes of a request or of an evaluation. -/
inductive Entry where
  /-- A request is rejected. -/
  | refused
  /-- A request finds the task enabled already. -/
  | coalesced
  /-- A request schedules an evaluation. -/
  | scheduled
  /-- A refresh disarms an evaluation that waits. -/
  | cancelled
  /-- An evaluation ends in a rejection; it may have taken up the fault policy, and may have
  asked the actuator. -/
  | failed (policy applied : Bool)
  /-- An evaluation ends with what the fault policy says. -/
  | handled (alarm applied : Bool)
  /-- An evaluation ends with the decision of the rule carried out. -/
  | completed
  deriving DecidableEq

namespace Entry

/-- It is the answer to a request. -/
def isRequest : Entry → Bool
  | .refused | .coalesced | .scheduled => true
  | _ => false

/-- It is the end of an evaluation that was carried out. -/
def isEnd : Entry → Bool
  | .failed _ _ | .handled _ _ | .completed => true
  | _ => false

/-- It is counted as a rejection. -/
def isRejection : Entry → Bool
  | .refused | .failed _ _ => true
  | _ => false

/-- The fault policy has been taken up. -/
def isPolicy : Entry → Bool
  | .failed policy _ => policy
  | .handled _ _ => true
  | _ => false

/-- The fault policy has raised an alarm. -/
def isAlarm : Entry → Bool
  | .handled alarm _ => alarm
  | _ => false

/-- The fault policy has settled the evaluation. -/
def isHandled : Entry → Bool
  | .handled _ _ => true
  | _ => false

/-- The actuator has been asked. -/
def applies : Entry → Bool
  | .failed _ applied => applied
  | .handled _ applied => applied
  | .completed => true
  | _ => false

end Entry

/-- The runtime with its counters, and a record of what they count; nothing reads the
record. -/
structure Tallied (α : Type) [Zero α] where
  /-- The runtime. -/
  system : System α := {}
  /-- Its counters. -/
  counters : Counters := {}
  /-- What has been counted, oldest first. -/
  log : List Entry := []

namespace Tallied

/-- A step of the runtime that counts nothing. -/
def onSystem (f : System α → System α) (t : Tallied α) : Tallied α :=
  { t with system := f t.system }

/-- An entry of the record. -/
def enter (entry : Entry) (t : Tallied α) : Tallied α :=
  { t with log := t.log ++ [entry] }

/-- A refresh disarms an evaluation that waits. -/
def cancels (answer : HealthState) (s : System α) : Bool :=
  s.runtime.started && (!s.engine.isEnabled || s.dependencySuspends answer) &&
    s.runtime.evaluationTask.ready

/-- `refreshEligibility`. -/
def refreshEligibility (machines : EntryMachines RuntimeState RuntimeEvent) (answer : HealthState)
    (t : Tallied α) : Tallied α :=
  let refreshed := t.onSystem (·.refreshEligibility machines answer)
  if cancels answer t.system then refreshed.enter .cancelled else refreshed

/-- `setFaultPolicy`. -/
def setFaultPolicy (machines : EntryMachines RuntimeState RuntimeEvent) (answer : HealthState)
    (policy : ActuatorFaultPolicy) (t : Tallied α) : Tallied α :=
  { t with system.runtime.faultPolicy := policy }.refreshEligibility machines answer

/-- `begin`. -/
def begin (machines : EntryMachines RuntimeState RuntimeEvent) (answer : HealthState)
    (t : Tallied α) : Tallied α :=
  if t.system.runtime.started then t
  else
    match t.system.events.subscribe .eventHandler with
    | (events, false) => t.onSystem fun s => { s with events }.ran "event_subscribe_failed"
    | (events, true) =>
      let t := t.onSystem fun s =>
        { s with events }.entered (machines.runMachine s.runtime.machine)
      { t with system.runtime.started := true }.refreshEligibility machines answer

/-- A request that is rejected. -/
def reject (result : String) (t : Tallied α) : Tallied α × Bool :=
  ({ t with
    counters.rejectedCount := bump t.counters.rejectedCount
    system := t.system.requested result }.enter .refused, false)

/-- `requestEvaluation`. -/
def requestEvaluation (machines : EntryMachines RuntimeState RuntimeEvent) (a : Answers α)
    (reason : String) (t : Tallied α) : Tallied α × Bool :=
  let t := { t with counters.requestCount := bump t.counters.requestCount }
  let t := t.refreshEligibility machines a.refreshHealth
  if !t.system.engine.isEnabled then t.reject "rule_disabled"
  else
    let healthy := t.system.dependencyHealthy a.health
    if !healthy && t.system.runtime.faultPolicy == .DisableRule then
      t.reject "dependency_fault_disable_rule"
    else if healthy && (!t.system.providers.inputReady || !a.inputReady) then
      t.reject "input_not_ready"
    else if t.system.runtime.state != .Armed then t.reject "runtime_not_armed"
    else if t.system.runtime.evaluationTask.enabled then
      ({ t with
        counters.coalescedCount := bump t.counters.coalescedCount
        system := { t.system with runtime.pending := true }.requested "coalesced"
        }.enter .coalesced, true)
    else if !a.restarts then
      let task := t.system.runtime.evaluationTask
      { t with
        system.runtime.pending := false
        system.runtime.evaluationTask := { task with iterations := task.setIterations }
        }.reject "scheduler_rejected"
    else
      ({ t with
        counters.scheduledCount := bump t.counters.scheduledCount
        system := { t.system with
          runtime.pending := true
          runtime.evaluationTask := t.system.runtime.evaluationTask.restart
          }.requested (if reason.length != 0 then "scheduled:" ++ reason else "scheduled")
        }.enter .scheduled, true)

/-- `handleEvent`. -/
def handleEvent (machines : EntryMachines RuntimeState RuntimeEvent) (a : Answers α)
    (event : Event) (t : Tallied α) : Tallied α :=
  if t.system.inputSourceId.length != 0 &&
    ArduinoText.cString event.source != ArduinoText.cString t.system.inputSourceId then t
  else if event.type = .InputValueChanged then (t.requestEvaluation machines a "input_event").1
  else if event.type = .ComponentHealthChanged then
    (t.requestEvaluation machines a "dependency_health").1
  else t

/-- An evaluation that ends in a rejection. -/
def fail (policy applied : Bool) (result : String) (t : Tallied α) : Tallied α :=
  { t with
    counters.rejectedCount := bump t.counters.rejectedCount
    system := t.system.ran result }.enter (.failed policy applied)

/-- An evaluation that ends with what the fault policy says. -/
def handle (applied : Bool) (result : String) (t : Tallied α) : Tallied α :=
  { t with system := t.system.ran result }.enter (.handled false applied)

/-- What a fault policy does with the output. -/
def actOnPolicy (a : Answers α) (resolution : ActuatorFaultResolution) (t : Tallied α) :
    Tallied α :=
  let name := actuatorFaultPolicyName t.system.runtime.faultPolicy
  if resolution.applyDesired then
    match t.system.applyDesired a resolution.desiredOn with
    | (s, false) => { t with system := s }.fail true true ("fault_policy_apply_failed:" ++ name)
    | (s, true) => { t with system := s }.handle true ("fault_policy:" ++ name)
  else if resolution.alarmOnly then
    { t with
      counters.alarmCount := bump t.counters.alarmCount
      system := t.system.ran "fault_policy:ALARM_ONLY" }.enter (.handled true false)
  else t.handle false "fault_policy:KEEP_LAST_STATE"

/-- The branch of a dependency that is not healthy. -/
def runPolicy (machines : EntryMachines RuntimeState RuntimeEvent) (a : Answers α)
    (t : Tallied α) : Tallied α :=
  let resolution := resolveActuatorFaultPolicy t.system.runtime.faultPolicy a.outputState
  let t := { t with
    counters.policyActionCount := bump t.counters.policyActionCount
    system.runtime.lastPolicyResult := actuatorFaultPolicyName t.system.runtime.faultPolicy }
  if resolution.suspendRule then
    (t.fail true false "fault_policy:DISABLE_RULE").refreshEligibility machines a.refreshHealth
  else
    ((t.onSystem (·.drive machines .EventEvaluate)).actOnPolicy a resolution).onSystem
      (·.drive machines .EventDone)

variable [LT α] [DecidableLT α]

/-- What a rule does with the output. -/
def actOnRule (a : Answers α) (t : Tallied α) : Tallied α :=
  let evaluated := t.system.engine.evaluate a.inputValue a.outputState t.system.events
  let t := { t with system.engine := evaluated.1.1, system.events := evaluated.1.2 }
  match evaluated.2 with
  | .error error => t.fail false false (if error.length != 0 then error else "evaluation_failed")
  | .ok (desired, decision) =>
    if decision = .Disabled then t.fail false false "rule_disabled"
    else
      match t.system.applyDesired a desired with
      | (s, false) => { t with system := s }.fail false true "actuator_rejected"
      | (s, true) =>
        { t with
          counters.completedCount := bump t.counters.completedCount
          system := s.ran (decisionName s.engine.lastDecision) }.enter .completed

/-- The branch of a healthy dependency. -/
def runRule (machines : EntryMachines RuntimeState RuntimeEvent) (a : Answers α)
    (t : Tallied α) : Tallied α :=
  if !t.system.providers.inputReady || !a.inputReady || !t.system.providers.inputValue then
    t.fail false false "runtime_provider_unavailable"
  else
    let t := (t.onSystem (·.drive machines .EventEvaluate)).actOnRule a
    t.onSystem (·.drive machines (if t.system.engine.isEnabled then .EventDone else .EventDisarm))

/-- `executeEvaluation`, the callback of the task. -/
def executeEvaluation (machines : EntryMachines RuntimeState RuntimeEvent) (a : Answers α)
    (t : Tallied α) : Tallied α :=
  let t := { t with system.runtime.pending := false }
  if !t.system.engine.isEnabled then
    (t.fail false false "rule_disabled").refreshEligibility machines a.refreshHealth
  else if !t.system.providers.outputState || !t.system.providers.applyDesired then
    t.fail false false "runtime_provider_unavailable"
  else if t.system.dependencyHealth a.health != .Ok then t.runPolicy machines a
  else t.runRule machines a

/-- A pass of the scheduler. -/
def pass (machines : EntryMachines RuntimeState RuntimeEvent) (due : Bool) (a : Answers α)
    (t : Tallied α) : Tallied α :=
  let passed := t.system.runtime.evaluationTask.pass due
  let t := { t with system.runtime.evaluationTask := passed.1 }
  if passed.2 then t.executeEvaluation machines a else t

end Tallied

variable [LT α] [DecidableLT α]

/-- One step of the runtime with its counters. -/
def tally (machines : EntryMachines RuntimeState RuntimeEvent) (t : Tallied α) :
    Label α → Tallied α
  | .begin answer => t.begin machines answer
  | .refreshEligibility answer => t.refreshEligibility machines answer
  | .setFaultPolicy answer policy => t.setFaultPolicy machines answer policy
  | .requestEvaluation a reason => (t.requestEvaluation machines a reason).1
  | .event a event => t.handleEvent machines a event
  | .configure rule =>
    match t.system.engine.configure rule with
    | .ok engine => { t with system.engine := engine }
    | .error _ => t
  | .clear => { t with system.engine := .clear }
  | .pass due a => t.pass machines due a

/-! ### The runtime without its counters -/

section Projection

omit [LT α] [DecidableLT α]

variable {machines : EntryMachines RuntimeState RuntimeEvent}

/-- A tallied refresh is that of the runtime. -/
theorem system_refresh (machines : EntryMachines RuntimeState RuntimeEvent) (answer : HealthState)
    (t : Tallied α) : (t.refreshEligibility machines answer).system =
      t.system.refreshEligibility machines answer := by
  unfold Tallied.refreshEligibility
  dsimp only
  split <;> rfl

/-- A tallied start is that of the runtime. -/
theorem system_begin (answer : HealthState) (t : Tallied α) :
    (t.begin machines answer).system = t.system.begin machines answer := by
  unfold Tallied.begin System.begin
  generalize t.system.events.subscribe .eventHandler = subscribed
  obtain ⟨events, accepted⟩ := subscribed
  split
  · rfl
  · cases accepted with
    | false => rfl
    | true => exact system_refresh machines answer _

/-- A tallied request is that of the runtime. -/
theorem system_request (a : Answers α) (reason : String) (t : Tallied α) :
    (t.requestEvaluation machines a reason).1.system =
      (t.system.requestEvaluation machines a reason).1 := by
  unfold Tallied.requestEvaluation System.requestEvaluation
  have hsystem := system_refresh machines a.refreshHealth
    { t with counters.requestCount := bump t.counters.requestCount }
  dsimp only at hsystem ⊢
  rw [← hsystem]
  generalize Tallied.refreshEligibility machines a.refreshHealth
    { t with counters.requestCount := bump t.counters.requestCount } = u
  split
  · rfl
  split
  · rfl
  split
  · rfl
  split
  · rfl
  split
  · rfl
  split
  · rfl
  · rfl

/-- A tallied event is that of the runtime. -/
theorem system_handleEvent (a : Answers α) (event : Event) (t : Tallied α) :
    (t.handleEvent machines a event).system = t.system.handleEvent machines a event := by
  unfold Tallied.handleEvent System.handleEvent
  split
  · rfl
  split
  · exact system_request a _ t
  split
  · exact system_request a _ t
  · rfl

/-- A tallied act of the policy is that of the runtime. -/
theorem system_actOnPolicy (a : Answers α) (resolution : ActuatorFaultResolution)
    (t : Tallied α) :
    (t.actOnPolicy a resolution).system = t.system.actOnPolicy a resolution := by
  unfold Tallied.actOnPolicy System.actOnPolicy
  generalize t.system.applyDesired a resolution.desiredOn = asked
  obtain ⟨s, applied⟩ := asked
  dsimp only
  split
  · cases applied with
    | false => rfl
    | true => rfl
  split
  · rfl
  · rfl

/-- A tallied run of the policy is that of the runtime. -/
theorem system_runPolicy (a : Answers α) (t : Tallied α) :
    (t.runPolicy machines a).system = t.system.runPolicy machines a := by
  unfold Tallied.runPolicy System.runPolicy
  dsimp only
  split
  · exact system_refresh machines a.refreshHealth _
  · exact congrArg (fun s : System α => s.drive machines .EventDone) (system_actOnPolicy a _ _)

end Projection

variable {machines : EntryMachines RuntimeState RuntimeEvent}

/-- A tallied act of the rule is that of the runtime. -/
theorem system_actOnRule (a : Answers α) (t : Tallied α) :
    (t.actOnRule a).system = t.system.actOnRule a := by
  unfold Tallied.actOnRule System.actOnRule
  generalize t.system.engine.evaluate a.inputValue a.outputState t.system.events = evaluated
  obtain ⟨⟨engine, events⟩, error | ⟨desired, decision⟩⟩ := evaluated
  · rfl
  · dsimp only
    generalize System.applyDesired a desired { t.system with engine, events } = asked
    obtain ⟨s, applied⟩ := asked
    split
    · rfl
    · cases applied with
      | false => rfl
      | true => rfl

/-- A tallied run of the rule is that of the runtime. -/
theorem system_runRule (a : Answers α) (t : Tallied α) :
    (t.runRule machines a).system = t.system.runRule machines a := by
  have hacted := system_actOnRule a (t.onSystem (·.drive machines .EventEvaluate))
  unfold Tallied.runRule System.runRule
  dsimp only
  split
  · rfl
  · exact congrArg (fun s : System α => s.drive machines
      (if s.engine.isEnabled then .EventDone else .EventDisarm)) hacted

/-- A tallied evaluation is that of the runtime. -/
theorem system_executeEvaluation (a : Answers α) (t : Tallied α) :
    (t.executeEvaluation machines a).system = t.system.executeEvaluation machines a := by
  unfold Tallied.executeEvaluation System.executeEvaluation
  dsimp only
  split
  · exact system_refresh machines a.refreshHealth _
  split
  · rfl
  split
  · exact system_runPolicy a _
  · exact system_runRule a _

/-- The runtime with its counters does what it does without them. -/
theorem system_tally (t : Tallied α) (label : Label α) :
    (tally machines t label).system = step machines t.system label := by
  unfold tally step
  cases label with
  | begin answer => exact system_begin answer t
  | refreshEligibility answer => exact system_refresh machines answer t
  | setFaultPolicy answer policy => exact system_refresh machines answer _
  | requestEvaluation a reason => exact system_request a reason t
  | event a event => exact system_handleEvent a event t
  | configure rule =>
    dsimp only
    generalize t.system.engine.configure rule = configured
    cases configured with
    | error _ => rfl
    | ok engine => rfl
  | clear => rfl
  | pass due a =>
    unfold Tallied.pass System.pass
    dsimp only
    split
    · exact system_executeEvaluation a _
    · rfl

/-! ### The counters -/

namespace Counters

/-- The counters behind one more entry. -/
def add (c : Counters) (e : Entry) : Counters where
  requestCount := if e.isRequest then bump c.requestCount else c.requestCount
  scheduledCount := if e = .scheduled then bump c.scheduledCount else c.scheduledCount
  coalescedCount := if e = .coalesced then bump c.coalescedCount else c.coalescedCount
  completedCount := if e = .completed then bump c.completedCount else c.completedCount
  rejectedCount := if e.isRejection then bump c.rejectedCount else c.rejectedCount
  policyActionCount := if e.isPolicy then bump c.policyActionCount else c.policyActionCount
  alarmCount := if e.isAlarm then bump c.alarmCount else c.alarmCount

/-- The counters of a record: the numbers of its entries, in 32 bits. -/
def ofLog (log : List Entry) : Counters where
  requestCount := log.countP Entry.isRequest % 2^32
  scheduledCount := log.count .scheduled % 2^32
  coalescedCount := log.count .coalesced % 2^32
  completedCount := log.count .completed % 2^32
  rejectedCount := log.countP Entry.isRejection % 2^32
  policyActionCount := log.countP Entry.isPolicy % 2^32
  alarmCount := log.countP Entry.isAlarm % 2^32

end Counters

/-- A counter that follows a number of entries. -/
theorem bump_countP (p : Entry → Bool) (log : List Entry) (e : Entry) :
    (log ++ [e]).countP p % 2^32 =
      if p e then bump (log.countP p % 2^32) else log.countP p % 2^32 := by
  rw [List.countP_append, List.countP_singleton]
  cases p e with
  | false => simp
  | true => simp [bump]

/-- The counters of a record follow its entries. -/
theorem ofLog_append (log : List Entry) (e : Entry) :
    Counters.ofLog (log ++ [e]) = (Counters.ofLog log).add e := by
  have hcount (wanted : Entry) : (log ++ [e]).count wanted % 2^32 =
      if e = wanted then bump (log.count wanted % 2^32) else log.count wanted % 2^32 := by
    have hbump := bump_countP (· == wanted) log e
    by_cases he : e = wanted
    · rw [if_pos he]
      rw [if_pos (beq_iff_eq.mpr he)] at hbump
      exact hbump
    · rw [if_neg he]
      rw [if_neg (fun heq => he (beq_iff_eq.mp heq))] at hbump
      exact hbump
  simp only [Counters.ofLog, Counters.add, bump_countP, hcount]

/-- The counters of a longer log are counted from those of the shorter. -/
theorem ofLog_append_all (log entries : List Entry) :
    Counters.ofLog (log ++ entries) = entries.foldl Counters.add (Counters.ofLog log) := by
  induction entries generalizing log with
  | nil => rw [List.append_nil, List.foldl_nil]
  | cons e entries ih =>
    have hsplit : log ++ e::entries = (log ++ [e]) ++ entries := by simp
    rw [hsplit, ih, ofLog_append, List.foldl_cons]

section Books

omit [LT α] [DecidableLT α]

/-- A call that began with these counters has counted what it entered. -/
def Books (c : Counters) (t u : Tallied α) : Prop :=
  ∃ entries, u.log = t.log ++ entries ∧ u.counters = entries.foldl Counters.add c

/-- Books are kept by one call and the next. -/
theorem Books.trans {c : Counters} {t u v : Tallied α} (h : Books c t u)
    (hnext : Books u.counters u v) : Books c t v := by
  obtain ⟨entries, hlog, hcounters⟩ := h
  obtain ⟨others, hothers, hlast⟩ := hnext
  refine ⟨entries ++ others, ?_, ?_⟩
  · rw [hothers, hlog, List.append_assoc]
  · rw [hlast, hcounters, List.foldl_append]

/-- Counters that were exact stay exact. -/
theorem Books.exact {t u : Tallied α} (h : Books t.counters t u)
    (hexact : t.counters = .ofLog t.log) : u.counters = .ofLog u.log := by
  obtain ⟨entries, hlog, hcounters⟩ := h
  rw [hcounters, hlog, ofLog_append_all, hexact]

/-- A refresh counts nothing; it may enter that it cancels an evaluation. -/
theorem refresh_log (machines : EntryMachines RuntimeState RuntimeEvent) (answer : HealthState)
    (t : Tallied α) :
    (t.refreshEligibility machines answer).log =
        t.log ++ (if Tallied.cancels answer t.system then [.cancelled] else []) ∧
      (t.refreshEligibility machines answer).counters = t.counters := by
  unfold Tallied.refreshEligibility
  dsimp only
  split
  · exact ⟨rfl, rfl⟩
  · exact ⟨(List.append_nil _).symm, rfl⟩

/-- A refresh keeps the books. -/
theorem books_refresh (answer : HealthState) {t u : Tallied α} (hlog : u.log = t.log)
    (hcounters : u.counters = t.counters) :
    Books t.counters t (u.refreshEligibility machines answer) := by
  obtain ⟨hentered, hcounted⟩ := refresh_log machines answer u
  rw [hlog] at hentered
  rw [hcounters] at hcounted
  refine ⟨_, hentered, ?_⟩
  rw [hcounted]
  split <;> rfl

/-- The entry of a request: what it is answered, behind what its refresh enters. -/
structure Answered (answer : HealthState) (t : Tallied α) (out : Tallied α × Bool) (e : Entry) :
    Prop where
  /-- The entry is one of a request. -/
  request : e.isRequest = true
  /-- It comes behind what the refresh enters. -/
  log : out.1.log =
    t.log ++ (if Tallied.cancels answer t.system then [.cancelled] else []) ++ [e]
  /-- It is counted. -/
  counters : out.1.counters = t.counters.add e
  /-- The request returns true unless it is refused. -/
  accepted : out.2 = true ↔ e ≠ .refused

/-- Every request has one entry. -/
theorem request_answered (machines : EntryMachines RuntimeState RuntimeEvent) (a : Answers α)
    (reason : String) (t : Tallied α) :
    ∃ e, Answered a.refreshHealth t (t.requestEvaluation machines a reason) e := by
  obtain ⟨hlog, hcounters⟩ := refresh_log machines a.refreshHealth
    { t with counters.requestCount := bump t.counters.requestCount }
  unfold Tallied.requestEvaluation
  dsimp only at hlog hcounters ⊢
  generalize Tallied.refreshEligibility machines a.refreshHealth
    { t with counters.requestCount := bump t.counters.requestCount } = u at hlog hcounters ⊢
  have hrejected (v : Tallied α) (result : String) (hv : v.log = u.log)
      (hc : v.counters = u.counters) : Answered a.refreshHealth t (v.reject result) .refused := by
    refine ⟨rfl, ?_, ?_, by simp [Tallied.reject]⟩
    · rw [← hlog, ← hv]
      rfl
    · simp only [Tallied.reject, Tallied.enter, hc, hcounters]
      rfl
  split
  · exact ⟨_, hrejected u _ rfl rfl⟩
  split
  · exact ⟨_, hrejected u _ rfl rfl⟩
  split
  · exact ⟨_, hrejected u _ rfl rfl⟩
  split
  · exact ⟨_, hrejected u _ rfl rfl⟩
  split
  · refine ⟨.coalesced, rfl, ?_, ?_, by simp⟩
    · rw [← hlog]
      rfl
    · simp only [Tallied.enter, hcounters]
      rfl
  split
  · exact ⟨_, hrejected _ _ rfl rfl⟩
  · refine ⟨.scheduled, rfl, ?_, ?_, by simp⟩
    · rw [← hlog]
      rfl
    · simp only [Tallied.enter, hcounters]
      rfl

/-- A request keeps the books. -/
theorem books_request (a : Answers α) (reason : String) (t : Tallied α) :
    Books t.counters t (t.requestEvaluation machines a reason).1 := by
  obtain ⟨e, he⟩ := request_answered machines a reason t
  refine ⟨(if Tallied.cancels a.refreshHealth t.system then [.cancelled] else []) ++ [e],
    ?_, ?_⟩
  · rw [he.log, List.append_assoc]
  · rw [he.counters, List.foldl_append]
    split <;> rfl

/-- An event keeps the books. -/
theorem books_handleEvent (a : Answers α) (event : Event) (t : Tallied α) :
    Books t.counters t (t.handleEvent machines a event) := by
  have hnothing : Books t.counters t t := ⟨[], (List.append_nil _).symm, rfl⟩
  unfold Tallied.handleEvent
  split
  · exact hnothing
  split
  · exact books_request a _ t
  split
  · exact books_request a _ t
  · exact hnothing

/-- What a fault policy does is counted together with its action. -/
theorem books_actOnPolicy {c : Counters} (a : Answers α) (resolution : ActuatorFaultResolution)
    {t : Tallied α}
    (hc : t.counters = { c with policyActionCount := bump c.policyActionCount }) :
    Books c t (t.actOnPolicy a resolution) := by
  unfold Tallied.actOnPolicy
  dsimp only
  split
  · split
    · refine ⟨[.failed true true], rfl, ?_⟩
      simp only [Tallied.fail, Tallied.enter, hc]
      rfl
    · refine ⟨[.handled false true], rfl, ?_⟩
      simp only [Tallied.handle, Tallied.enter, hc]
      rfl
  split
  · refine ⟨[.handled true false], rfl, ?_⟩
    simp only [Tallied.enter, hc]
    rfl
  · refine ⟨[.handled false false], rfl, ?_⟩
    simp only [Tallied.handle, Tallied.enter, hc]
    rfl

/-- A run of the policy keeps the books. -/
theorem books_runPolicy (a : Answers α) (t : Tallied α) :
    Books t.counters t (t.runPolicy machines a) := by
  unfold Tallied.runPolicy
  dsimp only
  split
  · refine Books.trans ?_ (books_refresh a.refreshHealth rfl rfl)
    exact ⟨[.failed true false], rfl, rfl⟩
  · obtain ⟨entries, hlog, hcounters⟩ := books_actOnPolicy (c := t.counters)
      (t := Tallied.onSystem (·.drive machines .EventEvaluate) { t with
        counters.policyActionCount := bump t.counters.policyActionCount
        system.runtime.lastPolicyResult := actuatorFaultPolicyName t.system.runtime.faultPolicy })
      a (resolveActuatorFaultPolicy t.system.runtime.faultPolicy a.outputState) rfl
    exact ⟨entries, hlog, hcounters⟩

end Books

/-- An act of the rule keeps the books. -/
theorem books_actOnRule (a : Answers α) (t : Tallied α) :
    Books t.counters t (t.actOnRule a) := by
  unfold Tallied.actOnRule
  dsimp only
  split
  · exact ⟨[.failed false false], rfl, rfl⟩
  · split
    · exact ⟨[.failed false false], rfl, rfl⟩
    · split
      · exact ⟨[.failed false true], rfl, rfl⟩
      · exact ⟨[.completed], rfl, rfl⟩

/-- An evaluation keeps the books. -/
theorem books_executeEvaluation (a : Answers α) (t : Tallied α) :
    Books t.counters t (t.executeEvaluation machines a) := by
  unfold Tallied.executeEvaluation
  dsimp only
  split
  · refine Books.trans ?_ (books_refresh a.refreshHealth rfl rfl)
    exact ⟨[.failed false false], rfl, rfl⟩
  split
  · exact ⟨[.failed false false], rfl, rfl⟩
  split
  · exact books_runPolicy a { t with system.runtime.pending := false }
  · unfold Tallied.runRule
    dsimp only
    split
    · exact ⟨[.failed false false], rfl, rfl⟩
    · obtain ⟨entries, hlog, hcounters⟩ := books_actOnRule a
        (Tallied.onSystem (·.drive machines .EventEvaluate)
          { t with system.runtime.pending := false })
      exact ⟨entries, hlog, hcounters⟩

/-- Every step counts what it enters. -/
theorem books_tally (t : Tallied α) (label : Label α) :
    Books t.counters t (tally machines t label) := by
  have hnothing : Books t.counters t t := ⟨[], (List.append_nil _).symm, rfl⟩
  cases label with
  | begin answer =>
    unfold tally Tallied.begin
    dsimp only
    split
    · exact hnothing
    · split
      · exact ⟨[], (List.append_nil _).symm, rfl⟩
      · exact books_refresh answer rfl rfl
  | refreshEligibility answer => exact books_refresh answer rfl rfl
  | setFaultPolicy answer policy => exact books_refresh answer rfl rfl
  | requestEvaluation a reason => exact books_request a reason t
  | event a event => exact books_handleEvent a event t
  | configure rule =>
    unfold tally
    dsimp only
    split
    · exact ⟨[], (List.append_nil _).symm, rfl⟩
    · exact hnothing
  | clear => exact ⟨[], (List.append_nil _).symm, rfl⟩
  | pass due a =>
    unfold tally Tallied.pass
    dsimp only
    split
    · exact books_executeEvaluation a { t with
        system.runtime.evaluationTask := (t.system.runtime.evaluationTask.pass due).1 }
    · exact ⟨[], (List.append_nil _).symm, rfl⟩

/-! ### Evaluations are carried out, cancelled, or wait -/

section Balance

omit [LT α] [DecidableLT α]

/-- The machine has no part in the task, nor in the calls of the actuator. -/
structure Untouched (s u : System α) : Prop where
  /-- The task stays. -/
  evaluationTask : u.runtime.evaluationTask = s.runtime.evaluationTask
  /-- The actuator is not asked. -/
  applied : u.runtime.applied = s.runtime.applied

/-- What two calls leave is left by the one after the other. -/
theorem Untouched.trans {s u v : System α} (h : Untouched s u) (hnext : Untouched u v) :
    Untouched s v :=
  ⟨hnext.evaluationTask.trans h.evaluationTask, hnext.applied.trans h.applied⟩

/-- The entry functions leave the task and the actuator alone. -/
theorem entered_untouched (called : Machine RuntimeState × List RuntimeState) (s : System α) :
    Untouched s (s.entered called) := by
  obtain ⟨machine, states⟩ := called
  unfold System.entered
  dsimp only
  suffices h : ∀ u : System α, Untouched s u →
      Untouched s (states.foldl (fun u next => u.setState next) u) from
    h { s with runtime.machine := machine } ⟨rfl, rfl⟩
  induction states with
  | nil => exact fun u hu => hu
  | cons next states ih => exact fun u hu => ih (u.setState next) ⟨hu.evaluationTask, hu.applied⟩

/-- An event of the machine leaves the task and the actuator alone. -/
theorem drive_untouched (machines : EntryMachines RuntimeState RuntimeEvent) (event : RuntimeEvent)
    (s : System α) : Untouched s (s.drive machines event) :=
  (entered_untouched _ s).trans (entered_untouched _ _)

/-- The rule may not run, for the health that is answered. -/
def ineligible (answer : HealthState) (s : System α) : Bool :=
  s.runtime.started && (!s.engine.isEnabled || s.dependencySuspends answer)

/-- A refresh disarms the task of a rule that may not run, and calls no actuator. -/
theorem refresh_task (machines : EntryMachines RuntimeState RuntimeEvent) (answer : HealthState)
    (s : System α) :
    (s.refreshEligibility machines answer).runtime.evaluationTask =
        (if ineligible answer s && s.runtime.evaluationTask.enabled
          then s.runtime.evaluationTask.disable else s.runtime.evaluationTask) ∧
      (s.refreshEligibility machines answer).runtime.applied = s.runtime.applied := by
  unfold System.refreshEligibility ineligible
  cases hstarted : s.runtime.started with
  | false => simp
  | true =>
    cases hineligible : !s.engine.isEnabled || s.dependencySuspends answer with
    | true =>
      have hdisarmed (u : System α) : Untouched u
          (if s.runtime.state != .Disabled then u.drive machines .EventDisarm else u) := by
        split
        · exact drive_untouched machines .EventDisarm u
        · exact ⟨rfl, rfl⟩
      have hkept := hdisarmed { s with
        runtime.pending := false
        runtime.evaluationTask := if s.runtime.evaluationTask.enabled
          then s.runtime.evaluationTask.disable else s.runtime.evaluationTask }
      simp only [Bool.not_true, Bool.false_eq_true, if_false, if_true, Bool.true_and]
      exact ⟨hkept.evaluationTask, hkept.applied⟩
    | false =>
      simp only [Bool.not_true, Bool.false_eq_true, if_false, Bool.and_false, Bool.false_and]
      split
      · have hdriven := drive_untouched machines .EventArm s
        exact ⟨hdriven.evaluationTask, hdriven.applied⟩
      · exact ⟨rfl, rfl⟩

/-- The record is in balance, with so many evaluations under way, which have asked the
actuator so many times. -/
structure Balanced (running asked : ℕ) (t : Tallied α) : Prop where
  /-- The task runs once for each restart. -/
  oneShot : t.system.runtime.evaluationTask.OneShot
  /-- What was scheduled has ended, was cancelled, waits or is under way. -/
  balance : t.log.count .scheduled = t.log.countP Entry.isEnd + t.log.count .cancelled +
    t.system.runtime.evaluationTask.pending + running
  /-- Each call of the actuator is that of an entry, or of what is under way. -/
  applied : t.system.runtime.applied.length = t.log.countP Entry.applies + asked

variable {running asked : ℕ} {t u : Tallied α}

/-- A task with as much that waits keeps the balance. -/
theorem Balanced.of_task (h : Balanced running asked t)
    (hshot : u.system.runtime.evaluationTask.OneShot)
    (hpending : u.system.runtime.evaluationTask.pending = t.system.runtime.evaluationTask.pending)
    (happlied : u.system.runtime.applied = t.system.runtime.applied) (hlog : u.log = t.log) :
    Balanced running asked u where
  oneShot := hshot
  balance := by
    rw [hlog, hpending]
    exact h.balance
  applied := by
    rw [hlog, happlied]
    exact h.applied

/-- What leaves task, calls and record alone leaves the balance. -/
theorem Balanced.of_untouched (h : Balanced running asked t) (hsystem : Untouched t.system u.system)
    (hlog : u.log = t.log) : Balanced running asked u :=
  h.of_task (hsystem.evaluationTask ▸ h.oneShot) (by rw [hsystem.evaluationTask])
    hsystem.applied hlog

/-- A refresh cancels what waits, or leaves it. -/
theorem Balanced.refresh (h : Balanced running asked t)
    (machines : EntryMachines RuntimeState RuntimeEvent) (answer : HealthState) :
    Balanced running asked (t.refreshEligibility machines answer) := by
  obtain ⟨htask, happlied⟩ := refresh_task machines answer t.system
  obtain ⟨hlog, _⟩ := refresh_log machines answer t
  have hcancels : Tallied.cancels answer t.system =
      (ineligible answer t.system && t.system.runtime.evaluationTask.ready) := rfl
  have hpending : t.system.runtime.evaluationTask.pending =
      (t.system.refreshEligibility machines answer).runtime.evaluationTask.pending +
        if Tallied.cancels answer t.system then 1 else 0 := by
    rw [htask, hcancels]
    cases hineligible : ineligible answer t.system with
    | false => simp
    | true =>
      cases henabled : t.system.runtime.evaluationTask.enabled with
      | false =>
        have hready : t.system.runtime.evaluationTask.ready = false := by
          simp [Task.ready, henabled]
        simp [hready]
      | true =>
        have hdisabled : t.system.runtime.evaluationTask.disable.ready = false := rfl
        simp [hdisabled, Task.pending]
  have hbalance := h.balance
  refine ⟨?_, ?_, ?_⟩
  · rw [system_refresh, htask]
    split
    · exact h.oneShot.disable
    · exact h.oneShot
  · rw [system_refresh, hlog]
    cases hcancelled : Tallied.cancels answer t.system with
    | false =>
      rw [hcancelled] at hpending
      simp only [Bool.false_eq_true, if_false, List.append_nil] at hpending ⊢
      omega
    | true =>
      rw [hcancelled] at hpending
      simp only [if_true, List.count_append, List.countP_append] at hpending ⊢
      have hentry : [Entry.cancelled].count .scheduled = 0 ∧
          [Entry.cancelled].countP Entry.isEnd = 0 ∧
          [Entry.cancelled].count .cancelled = 1 := by decide
      omega
  · rw [system_refresh, hlog, happlied, List.countP_append]
    have hentry : (if Tallied.cancels answer t.system then [Entry.cancelled] else []).countP
        Entry.applies = 0 := by
      cases Tallied.cancels answer t.system <;> rfl
    rw [hentry]
    exact h.applied

/-- An entry that is neither about an evaluation nor about the actuator. -/
theorem Balanced.enter_request (h : Balanced running asked t) {e : Entry}
    (he : e = .refused ∨ e = .coalesced) : Balanced running asked (t.enter e) := by
  have hbalance := h.balance
  have happlied := h.applied
  refine ⟨h.oneShot, ?_, ?_⟩
  · change (t.log ++ [e]).count .scheduled = (t.log ++ [e]).countP Entry.isEnd +
      (t.log ++ [e]).count .cancelled + t.system.runtime.evaluationTask.pending + running
    simp only [List.count_append, List.countP_append]
    rcases he with rfl | rfl
    · have hentry : [Entry.refused].count .scheduled = 0 ∧
        [Entry.refused].countP Entry.isEnd = 0 ∧ [Entry.refused].count .cancelled = 0 := by decide
      omega
    · have hentry : [Entry.coalesced].count .scheduled = 0 ∧
        [Entry.coalesced].countP Entry.isEnd = 0 ∧
        [Entry.coalesced].count .cancelled = 0 := by decide
      omega
  · change _ = (t.log ++ [e]).countP Entry.applies + asked
    rw [List.countP_append]
    rcases he with rfl | rfl
    · exact happlied
    · exact happlied

/-- A restart of a task that is not enabled leaves one evaluation waiting. -/
theorem Balanced.enter_scheduled (h : Balanced running asked t)
    (hdisabled : t.system.runtime.evaluationTask.enabled = false)
    (htask : u.system.runtime.evaluationTask = t.system.runtime.evaluationTask.restart)
    (happlied : u.system.runtime.applied = t.system.runtime.applied)
    (hlog : u.log = t.log ++ [.scheduled]) : Balanced running asked u := by
  have hbalance := h.balance
  have hnone := Task.pending_of_disabled hdisabled
  have hone := h.oneShot.pending_restart
  refine ⟨?_, ?_, ?_⟩
  · rw [htask]
    exact h.oneShot.restart
  · rw [hlog, htask]
    simp only [List.count_append, List.countP_append]
    have hentry : [Entry.scheduled].count .scheduled = 1 ∧
        [Entry.scheduled].countP Entry.isEnd = 0 ∧
        [Entry.scheduled].count .cancelled = 0 := by decide
    omega
  · rw [hlog, happlied, List.countP_append]
    exact h.applied

/-- The end of the evaluation that is under way. -/
theorem Balanced.enter_end (h : Balanced (running + 1) asked t) {e : Entry}
    (he : e.isEnd = true) (hasked : asked = if e.applies then 1 else 0)
    (hsystem : Untouched t.system u.system) (hlog : u.log = t.log ++ [e]) :
    Balanced running 0 u := by
  have hbalance := h.balance
  have happlied := h.applied
  have hentry : [e].count .scheduled = 0 ∧ [e].countP Entry.isEnd = 1 ∧
      [e].count .cancelled = 0 := by
    cases e with
    | failed policy applied => exact ⟨by simp, rfl, by simp⟩
    | handled alarm applied => exact ⟨by simp, rfl, by simp⟩
    | completed => decide
    | _ => cases he
  refine ⟨hsystem.evaluationTask ▸ h.oneShot, ?_, ?_⟩
  · rw [hlog, hsystem.evaluationTask]
    simp only [List.count_append, List.countP_append]
    omega
  · rw [hlog, hsystem.applied, List.countP_append, List.countP_singleton]
    omega

/-- The actuator is asked once. -/
theorem Balanced.applyDesired (h : Balanced running 0 t) (a : Answers α) (desiredOn : Bool) :
    Balanced running 1 { t with system := (t.system.applyDesired a desiredOn).1 } := by
  refine ⟨h.oneShot, h.balance, ?_⟩
  change (t.system.runtime.applied ++ [_]).length = _
  rw [List.length_append, h.applied]
  rfl

/-- An event of the machine keeps the balance. -/
theorem Balanced.drive (h : Balanced running asked t)
    (machines : EntryMachines RuntimeState RuntimeEvent) (event : RuntimeEvent) :
    Balanced running asked (t.onSystem (·.drive machines event)) :=
  h.of_untouched (drive_untouched machines event t.system) rfl

/-- A request keeps the balance. -/
theorem Balanced.request (h : Balanced 0 0 t) (a : Answers α) (reason : String) :
    Balanced 0 0 (t.requestEvaluation machines a reason).1 := by
  have hcounted : Balanced 0 0 { t with counters.requestCount := bump t.counters.requestCount } :=
    h.of_untouched ⟨rfl, rfl⟩ rfl
  have hrefreshed := hcounted.refresh machines a.refreshHealth
  unfold Tallied.requestEvaluation
  dsimp only
  generalize Tallied.refreshEligibility machines a.refreshHealth
    { t with counters.requestCount := bump t.counters.requestCount } = v at hrefreshed ⊢
  have hrejected (w : Tallied α) (hw : Balanced 0 0 w) (result : String) :
      Balanced 0 0 (w.reject result).1 := by
    have hcounted : Balanced 0 0 { w with
        counters.rejectedCount := bump w.counters.rejectedCount
        system := w.system.requested result } := hw.of_untouched ⟨rfl, rfl⟩ rfl
    exact hcounted.enter_request (.inl rfl)
  split
  · exact hrejected v hrefreshed _
  split
  · exact hrejected v hrefreshed _
  split
  · exact hrejected v hrefreshed _
  split
  · exact hrejected v hrefreshed _
  split
  · have hcounted : Balanced 0 0 { v with
        counters.coalescedCount := bump v.counters.coalescedCount
        system := { v.system with runtime.pending := true }.requested "coalesced" } :=
      hrefreshed.of_untouched ⟨rfl, rfl⟩ rfl
    exact hcounted.enter_request (.inr rfl)
  rename_i hdisabled
  have hdisabled : v.system.runtime.evaluationTask.enabled = false := by simpa using hdisabled
  split
  · -- The task stays as it was, with its iteration given back.
    have hgiven : ({ v.system.runtime.evaluationTask with
        iterations := v.system.runtime.evaluationTask.setIterations } : Task).OneShot :=
      ⟨hrefreshed.oneShot.setIterations, .inr hrefreshed.oneShot.setIterations⟩
    have hbefore := Task.pending_of_disabled hdisabled
    have hafter : ({ v.system.runtime.evaluationTask with
        iterations := v.system.runtime.evaluationTask.setIterations } : Task).pending = 0 :=
      Task.pending_of_disabled hdisabled
    have hkept : Balanced 0 0 { v with
        system.runtime.pending := false
        system.runtime.evaluationTask := { v.system.runtime.evaluationTask with
          iterations := v.system.runtime.evaluationTask.setIterations } } :=
      hrefreshed.of_task hgiven (hafter.trans hbefore.symm) rfl rfl
    exact hrejected _ hkept _
  · exact hrefreshed.enter_scheduled hdisabled rfl rfl rfl

/-- An event keeps the balance. -/
theorem Balanced.handleEvent (h : Balanced 0 0 t) (a : Answers α) (event : Event) :
    Balanced 0 0 (t.handleEvent machines a event) := by
  unfold Tallied.handleEvent
  split
  · exact h
  split
  · exact h.request a _
  split
  · exact h.request a _
  · exact h

/-- The start keeps the balance. -/
theorem Balanced.begin (h : Balanced 0 0 t) (answer : HealthState) :
    Balanced 0 0 (t.begin machines answer) := by
  unfold Tallied.begin
  split
  · exact h
  · split
    · exact h.of_untouched ⟨rfl, rfl⟩ rfl
    · rename_i events hsubscribed
      have hentered := entered_untouched (machines.runMachine t.system.runtime.machine)
        { t.system with events }
      have hstarted : Balanced 0 0 { t with
          system := { ({ t.system with events }.entered
            (machines.runMachine t.system.runtime.machine)) with runtime.started := true } } :=
        h.of_untouched ⟨hentered.evaluationTask, hentered.applied⟩ rfl
      exact hstarted.refresh machines answer

/-- A failure is the end of the evaluation. -/
theorem Balanced.fail (h : Balanced 1 asked t) (policy applied : Bool)
    (hasked : asked = if applied then 1 else 0) (result : String) :
    Balanced 0 0 (t.fail policy applied result) :=
  h.enter_end (e := .failed policy applied) rfl hasked ⟨rfl, rfl⟩ rfl

/-- The end of an evaluation settles what was running. -/
theorem Balanced.handle (h : Balanced 1 asked t) {applied : Bool}
    (hasked : asked = if applied then 1 else 0) (result : String) :
    Balanced 0 0 (t.handle applied result) :=
  h.enter_end (e := .handled false applied) rfl hasked ⟨rfl, rfl⟩ rfl

/-- An act of the policy settles what was running. -/
theorem Balanced.actOnPolicy (h : Balanced 1 0 t) (a : Answers α)
    (resolution : ActuatorFaultResolution) : Balanced 0 0 (t.actOnPolicy a resolution) := by
  have hasked := h.applyDesired a resolution.desiredOn
  unfold Tallied.actOnPolicy
  dsimp only
  split
  · split
    · rename_i s happlied
      rw [happlied] at hasked
      exact hasked.fail _ _ rfl _
    · rename_i s happlied
      rw [happlied] at hasked
      exact hasked.handle rfl _
  split
  · exact h.enter_end (e := .handled true false) rfl rfl ⟨rfl, rfl⟩ rfl
  · exact h.handle rfl _

/-- A run of the policy settles what was running. -/
theorem Balanced.runPolicy (h : Balanced 1 0 t) (a : Answers α) :
    Balanced 0 0 (t.runPolicy machines a) := by
  have htaken : Balanced 1 0 { t with
      counters.policyActionCount := bump t.counters.policyActionCount
      system.runtime.lastPolicyResult := actuatorFaultPolicyName t.system.runtime.faultPolicy } :=
    h.of_untouched ⟨rfl, rfl⟩ rfl
  unfold Tallied.runPolicy
  dsimp only
  split
  · have hfailed := htaken.fail true false rfl "fault_policy:DISABLE_RULE"
    exact hfailed.refresh machines a.refreshHealth
  · have hacted := (htaken.drive machines .EventEvaluate).actOnPolicy a
      (resolveActuatorFaultPolicy t.system.runtime.faultPolicy a.outputState)
    exact hacted.drive machines .EventDone

end Balance

section Evaluations

variable {t : Tallied α}

/-- An act of the rule settles what was running. -/
theorem Balanced.actOnRule (h : Balanced 1 0 t) (a : Answers α) :
    Balanced 0 0 (t.actOnRule a) := by
  have hevaluated (engine : RuleEngine α) (events : EventBus Handler) : Balanced 1 0
      { t with system.engine := engine, system.events := events } :=
    h.of_untouched ⟨rfl, rfl⟩ rfl
  unfold Tallied.actOnRule
  dsimp only
  split
  · exact (hevaluated _ _).fail _ _ rfl _
  · rename_i desired decision hdecided
    split
    · exact (hevaluated _ _).fail _ _ rfl _
    · have hasked := (hevaluated
        (t.system.engine.evaluate a.inputValue a.outputState t.system.events).1.1
        (t.system.engine.evaluate a.inputValue a.outputState t.system.events).1.2).applyDesired
          a desired
      split
      · rename_i s happlied
        rw [happlied] at hasked
        exact hasked.fail _ _ rfl _
      · rename_i s happlied
        rw [happlied] at hasked
        exact hasked.enter_end (e := .completed) rfl rfl ⟨rfl, rfl⟩ rfl

/-- A run of the rule settles what was running. -/
theorem Balanced.runRule (h : Balanced 1 0 t) (a : Answers α) :
    Balanced 0 0 (t.runRule machines a) := by
  unfold Tallied.runRule
  dsimp only
  split
  · exact h.fail _ _ rfl _
  · exact ((h.drive machines .EventEvaluate).actOnRule a).drive machines _

/-- The callback ends the evaluation that the pass has taken. -/
theorem Balanced.executeEvaluation (h : Balanced 1 0 t) (a : Answers α) :
    Balanced 0 0 (t.executeEvaluation machines a) := by
  have hbegun : Balanced 1 0 { t with system.runtime.pending := false } :=
    h.of_untouched ⟨rfl, rfl⟩ rfl
  unfold Tallied.executeEvaluation
  dsimp only
  split
  · have hfailed := hbegun.fail false false rfl "rule_disabled"
    exact hfailed.refresh machines a.refreshHealth
  split
  · exact hbegun.fail _ _ rfl _
  split
  · exact hbegun.runPolicy a
  · exact hbegun.runRule a

/-- A pass takes an evaluation that waits, and carries it out. -/
theorem Balanced.pass (h : Balanced 0 0 t) (due : Bool) (a : Answers α) :
    Balanced 0 0 (t.pass machines due a) := by
  have htaken := h.oneShot.pending_pass due
  have hshot := h.oneShot.pass due
  have hbalance := h.balance
  unfold Tallied.pass
  dsimp only
  generalize t.system.runtime.evaluationTask.pass due = passed at htaken hshot ⊢
  obtain ⟨task, runs⟩ := passed
  cases runs with
  | false =>
    refine h.of_task hshot ?_ rfl rfl
    simpa using htaken.symm
  | true =>
    have hunder : Balanced 1 0 { t with system.runtime.evaluationTask := task } := by
      refine ⟨hshot, ?_, h.applied⟩
      rw [htaken] at hbalance
      exact hbalance
    exact hunder.executeEvaluation a

/-- Every step keeps the balance. -/
theorem balanced_tally (t : Tallied α) (label : Label α) (h : Balanced 0 0 t) :
    Balanced 0 0 (tally machines t label) := by
  unfold tally
  cases label with
  | begin answer => exact h.begin answer
  | refreshEligibility answer => exact h.refresh machines answer
  | setFaultPolicy answer policy =>
    have hset : Balanced 0 0 { t with system.runtime.faultPolicy := policy } :=
      h.of_untouched ⟨rfl, rfl⟩ rfl
    exact hset.refresh machines answer
  | requestEvaluation a reason => exact h.request a reason
  | event a event => exact h.handleEvent a event
  | configure rule =>
    dsimp only
    split
    · exact h.of_untouched ⟨rfl, rfl⟩ rfl
    · exact h
  | clear => exact h.of_untouched ⟨rfl, rfl⟩ rfl
  | pass due a => exact h.pass due a

end Evaluations

/-! ### The books of a run -/

/-- A request is refused, finds the task enabled, or schedules an evaluation. -/
theorem requests_eq (log : List Entry) : log.countP Entry.isRequest =
    log.count .refused + log.count .coalesced + log.count .scheduled := by
  induction log with
  | nil => rfl
  | cons e log ih =>
    simp only [List.countP_cons, List.count_cons, ih]
    cases e <;> simp [Entry.isRequest] <;> omega

/-- What is refused or ends is a rejection, what a fault policy says, or completed. -/
theorem ends_eq (log : List Entry) : log.count .refused + log.countP Entry.isEnd =
    log.countP Entry.isRejection + log.countP Entry.isHandled + log.count .completed := by
  induction log with
  | nil => rfl
  | cons e log ih =>
    simp only [List.countP_cons, List.count_cons]
    cases e <;> simp [Entry.isEnd, Entry.isRejection, Entry.isHandled] <;> omega

/-- In every run the runtime with its counters does what it does without them; its counters
are the numbers of the entries, in 32 bits; each request has one entry, which says whether
it was accepted; each evaluation that was scheduled has ended once, was cancelled once or
is the one that waits; and each call of the actuator is that of one ended evaluation. The
counter of the requests is then the sum of the others, with what no counter counts. -/
theorem accounting_run (machines : EntryMachines RuntimeState RuntimeEvent)
    (providers : Providers) (inputSourceId : String) (events : EventBus Handler)
    (engine : RuleEngine α) (labels : List (Label α)) :
    let start : System α := { providers, inputSourceId, events, engine }
    let t := run (tally machines) { system := start } labels
    let waiting := t.system.runtime.evaluationTask.pending
    t.system = run (step machines) start labels ∧
      t.counters = .ofLog t.log ∧
      (∀ a reason, ∃ e, Answered a.refreshHealth t (t.requestEvaluation machines a reason) e) ∧
      t.log.count .scheduled = t.log.countP Entry.isEnd + t.log.count .cancelled + waiting ∧
      t.system.runtime.applied.length = t.log.countP Entry.applies ∧
      t.counters.requestCount ≡ t.counters.coalescedCount + t.counters.completedCount +
        t.counters.rejectedCount + t.log.countP Entry.isHandled + t.log.count .cancelled +
          waiting [MOD 2^32] := by
  intro start t waiting
  have hsystem : t.system = run (step machines) start labels :=
    view_run (I := fun _ : Tallied α => True) (fun _ _ _ => trivial)
      (fun u label _ => system_tally u label) trivial labels
  have hcounters : t.counters = .ofLog t.log :=
    run_invariant (I := fun u : Tallied α => u.counters = .ofLog u.log)
      (fun u label hu => (books_tally u label).exact hu) rfl labels
  have hbalanced : Balanced 0 0 t :=
    run_invariant balanced_tally ⟨⟨rfl, .inr rfl⟩, rfl, rfl⟩ labels
  have hbalance : t.log.count .scheduled =
      t.log.countP Entry.isEnd + t.log.count .cancelled + waiting := hbalanced.balance
  refine ⟨hsystem, hcounters, fun a reason => request_answered machines a reason t, hbalance,
    hbalanced.applied, ?_⟩
  have hrequests := requests_eq t.log
  have hends := ends_eq t.log
  have hsum : t.log.countP Entry.isRequest = t.log.count .coalesced + t.log.count .completed +
      t.log.countP Entry.isRejection + t.log.countP Entry.isHandled + t.log.count .cancelled +
        waiting := by omega
  rw [hcounters]
  change t.log.countP Entry.isRequest % 2^32 ≡ t.log.count .coalesced % 2^32 +
    t.log.count .completed % 2^32 + t.log.countP Entry.isRejection % 2^32 +
      t.log.countP Entry.isHandled + t.log.count .cancelled + waiting [MOD 2^32]
  rw [hsum]
  unfold Nat.ModEq
  omega

/-- A rule whose first evaluation is carried out, once for two requests, and whose second
one is cancelled by the refresh after the rule is gone; a request is refused from then on. -/
example :
    let t : Tallied ℕ := run (tally sampleEntryMachines) {}
      [.configure ⟨"cooling", true, .finite 1, .finite 3⟩, .begin .Ok, .requestEvaluation {} "",
        .requestEvaluation {} "", .pass true {}, .pass true {}, .requestEvaluation {} "",
        .clear, .refreshEligibility .Ok, .requestEvaluation {} ""]
    t.log = [.scheduled, .coalesced, .completed, .scheduled, .cancelled, .refused] ∧
      t.counters = { requestCount := 4, scheduledCount := 2, coalescedCount := 1
                     completedCount := 1, rejectedCount := 1 } ∧
      t.system.runtime.applied.length = 1 := by
  decide +kernel

end ProjEsp32.RuleAccounting
