import ProjEsp32.ArduinoJson
import ProjEsp32.CheckedResult
import ProjEsp32.CooperativeTask
import ProjEsp32.MachineLibrary
import ProjEsp32.TransitionRuns

/-!
# The local schedule

A configuration holds at most one schedule, which applies a desired state once,
some time after its activation. A one-shot task does the waiting, and a state
machine says what the service is waiting for. Whatever is activated, and whenever
the scheduler passes and finds the task due, an action is applied only as the next
thing after the activation that armed it.
-/

namespace ProjEsp32.LocalSchedules

open ArduinoJson CheckedResult CooperativeTask MachineLibrary TransitionRuns

variable {α : Type}

/-- The capacity that a document is read with. -/
def JSON_CAPACITY : ℕ := 4096

/-- The greatest delay of a schedule, a day. -/
def MAX_DELAY_MS : ℕ := 24 * 60 * 60 * 1000

/-- The greatest length of an identifier. -/
def MAX_ID_LENGTH : ℕ := 48

/-- A character of an identifier. -/
def validIdCharacter (c : Char) : Bool :=
  ('a' ≤ c && c ≤ 'z') || ('A' ≤ c && c ≤ 'Z') || ('0' ≤ c && c ≤ '9') || c == '_' || c == '-' ||
    c == '.' || c == ':'

/-- The identifier of a schedule. -/
def validId (value : String) : Bool :=
  value.length != 0 && value.length ≤ MAX_ID_LENGTH && value.toList.all validIdCharacter

/-- The states of the service. -/
inductive ScheduleState where
  | Disabled
  | Waiting
  | Firing
  | Completed
  | Fault
  deriving DecidableEq

/-- The events of its machine. -/
inductive ScheduleEvent where
  | EventDisable
  | EventArm
  | EventFire
  | EventDone
  | EventFail
  deriving DecidableEq

/-- `configureTransitions`. -/
def transitions : List (Transition ScheduleState ScheduleEvent) :=
  [⟨.Disabled, .Waiting, .EventArm⟩, ⟨.Waiting, .Disabled, .EventDisable⟩,
    ⟨.Waiting, .Firing, .EventFire⟩, ⟨.Firing, .Completed, .EventDone⟩,
    ⟨.Firing, .Fault, .EventFail⟩, ⟨.Completed, .Waiting, .EventArm⟩,
    ⟨.Completed, .Disabled, .EventDisable⟩, ⟨.Fault, .Waiting, .EventArm⟩,
    ⟨.Fault, .Disabled, .EventDisable⟩]

/-- A delayed action, as a document gives it. -/
structure DelayedAction where
  /-- The identifier of the schedule. -/
  id : String := ""
  /-- It is to be armed at all. -/
  enabled : Bool := false
  /-- The output that it acts on. -/
  target : String := ""
  /-- The state that it asks for. -/
  desiredOn : Bool := false
  /-- The delay, in milliseconds. -/
  delayMs : ℕ := 0
  deriving DecidableEq

/-- The schedule of an entry. -/
def parseAction (object : Json α) : Except String DelayedAction := do
  let id := (object.member "id").orCStr ""
  let type := (object.member "type").orCStr ""
  let target := (object.member "target").orCStr ""
  refuseIf (!validId id) "schedule_id_invalid"
  refuseIf (type != "delay_after_activation") "schedule_type_unsupported"
  refuseIf (target != "virtual.schedule_output") "schedule_target_unsupported"
  refuseIf (object.containsKey "enabled" && !(object.member "enabled").isBool)
    "schedule_enabled_invalid"
  refuseIf (!(object.member "desired_on").isBool) "schedule_desired_on_invalid"
  refuseIf (!(object.member "delay_ms").isUInt 32) "schedule_delay_invalid"
  let delayMs := (object.member "delay_ms").asUInt 32
  refuseIf (MAX_DELAY_MS < delayMs) "schedule_delay_out_of_range"
  return { id, enabled := (object.member "enabled").orBool true, target
           desiredOn := (object.member "desired_on").orBool false, delayMs }

/-- `parseDocument`: the schedule of a document, if it has one. -/
def parseDocument (lib : JsonLibrary α) (raw : String) : Except String (Option DelayedAction) := do
  let doc ← orRefuse (lib.deserializeJson JSON_CAPACITY raw) "schedule_config_json_invalid"
  refuseIf (!(doc.member "schedules").isArray) "schedule_array_missing"
  match (doc.member "schedules").asArray with
  | [] => return none
  | object::rest =>
    refuseIf (!rest.isEmpty) "schedule_multiple_not_supported_stage7e"
    let action ← parseAction object
    return some action

/-- `validateDocument`. -/
def validateDocument (lib : JsonLibrary α) (raw : String) : Except String Unit := do
  let _ ← parseDocument lib raw
  return ()

/-- What the service does with the schedules that are activated. -/
inductive Note where
  /-- An enabled schedule waits. -/
  | armed (desiredOn : Bool)
  /-- `applyDesired` is called. -/
  | applied (desiredOn : Bool)
  /-- An activation without a schedule, or with a disabled one. -/
  | cancelled
  /-- An enabled schedule that the task scheduler does not take. -/
  | refused
  deriving DecidableEq

/-- The variables of the service. The state machine is in `state`: the function
that a state runs on entry writes it. -/
structure LocalScheduleService where
  /-- `TASK_IMMEDIATE`, `TASK_ONCE`, not enabled. -/
  actionTask : Task := { interval := 0, setIterations := some 1, iterations := some 1 }
  /-- The delays that the task was restarted with so far. When the last one has passed is
  up to the task scheduler. -/
  restarts : List ℕ := []
  /-- What the service is waiting for. -/
  state : ScheduleState := .Disabled
  /-- The schedule of the document activated last. -/
  action : DelayedAction := {}
  /-- That document has a schedule. -/
  configured : Bool := false
  /-- Its revision. -/
  loadedRevision : ℕ := 0
  /-- How the last call ended. -/
  lastResult : String := "never"
  /-- The notes so far; nothing reads them. -/
  notes : List Note := []
  deriving DecidableEq

/-- `begin`: the machine runs, in its first state. -/
def begin : LocalScheduleService := {}

namespace LocalScheduleService

/-- `trigger`, and the entry into the state that it leads to. -/
def trigger (machines : Machines ScheduleState ScheduleEvent) (event : ScheduleEvent)
    (s : LocalScheduleService) : LocalScheduleService :=
  { s with state := machines.trigger transitions event s.state }

/-- A result, and what is noted about it. -/
def ended (result : String) (note : Note) (s : LocalScheduleService) : LocalScheduleService :=
  { s with lastResult := result, notes := s.notes ++ [note] }

/-- Nothing is to be done: leave whatever state the service is in. -/
def cancel (machines : Machines ScheduleState ScheduleEvent) (result : String)
    (s : LocalScheduleService) : LocalScheduleService :=
  let s := if s.state != .Disabled then s.trigger machines .EventDisable else s
  s.ended result .cancelled

/-- `restartDelayed`, which the task scheduler accepts or refuses. -/
def restartDelayed (accepted : Bool) (s : LocalScheduleService) : LocalScheduleService :=
  let restarted := s.actionTask.restart
  { s with
    actionTask := if accepted then restarted else restarted.disable
    restarts := s.restarts ++ [s.action.delayMs] }

/-- Wait for the delay of the action. -/
def arm (machines : Machines ScheduleState ScheduleEvent) (accepted : Bool)
    (s : LocalScheduleService) : LocalScheduleService × Except String Unit :=
  let s := if s.state == .Waiting then s.trigger machines .EventDisable else s
  let s := (s.trigger machines .EventArm).restartDelayed accepted
  if accepted then (s.ended "waiting" (.armed s.action.desiredOn), .ok ())
  else
    let s := (s.trigger machines .EventFire).trigger machines .EventFail
    (s.ended "scheduler_rejected" .refused, .error "scheduler_rejected")

/-- Pending work is dropped, and the schedule of the document is taken. -/
def take (found : Option DelayedAction) (revision : ℕ) (s : LocalScheduleService) :
    LocalScheduleService :=
  { s with
    actionTask := if s.actionTask.enabled then s.actionTask.disable else s.actionTask
    configured := found.isSome
    loadedRevision := revision
    action := found.getD {} }

/-- `activateDocument`. -/
def activateDocument (machines : Machines ScheduleState ScheduleEvent) (lib : JsonLibrary α)
    (accepted : Bool) (raw : String) (revision : ℕ) (s : LocalScheduleService) :
    LocalScheduleService × Except String Unit :=
  match parseDocument lib raw with
  | .error error => ({ s with lastResult := error }, .error error)
  | .ok found =>
    let s := s.take found revision
    match found with
    | none => (s.cancel machines "no_schedules", .ok ())
    | some action =>
      if !action.enabled then (s.cancel machines "schedule_disabled", .ok ())
      else s.arm machines accepted

/-- `executeAction`, the callback of the task; the target applies the state or not. -/
def executeAction (machines : Machines ScheduleState ScheduleEvent) (ok : Bool)
    (s : LocalScheduleService) : LocalScheduleService :=
  let s := s.trigger machines .EventFire
  if ok then (s.ended "completed" (.applied s.action.desiredOn)).trigger machines .EventDone
  else (s.ended "target_rejected" (.applied s.action.desiredOn)).trigger machines .EventFail

/-- One pass of the scheduler over the task, which is due or not. -/
def pass (machines : Machines ScheduleState ScheduleEvent) (due ok : Bool)
    (s : LocalScheduleService) : LocalScheduleService :=
  let passed := s.actionTask.pass due
  let s := { s with actionTask := passed.1 }
  if passed.2 then s.executeAction machines ok else s

end LocalScheduleService

/-- A call of the service. -/
inductive Label where
  /-- A document is activated; the task scheduler accepts a restart or not. -/
  | activate (accepted : Bool) (raw : String) (revision : ℕ)
  /-- A pass, with what the target answers. -/
  | pass (due ok : Bool)

/-- One call. -/
def step (machines : Machines ScheduleState ScheduleEvent) (lib : JsonLibrary α)
    (s : LocalScheduleService) : Label → LocalScheduleService
  | .activate accepted raw revision =>
    (s.activateDocument machines lib accepted raw revision).1
  | .pass due ok => s.pass machines due ok

/-! ### A cancelled schedule is not applied -/

variable {machines : Machines ScheduleState ScheduleEvent} {s : LocalScheduleService}

/-- The state after a trigger. -/
def next : ScheduleEvent → ScheduleState → ScheduleState
  | .EventArm, .Disabled => .Waiting
  | .EventDisable, .Waiting => .Disabled
  | .EventFire, .Waiting => .Firing
  | .EventDone, .Firing => .Completed
  | .EventFail, .Firing => .Fault
  | .EventArm, .Completed => .Waiting
  | .EventDisable, .Completed => .Disabled
  | .EventArm, .Fault => .Waiting
  | .EventDisable, .Fault => .Disabled
  | _, state => state

/-- A triggered event leads to the next state. -/
theorem trigger_eq (hmachines : machines.Takes) (event : ScheduleEvent) :
    s.trigger machines event = { s with state := next event s.state } := by
  have hnext : machines.trigger transitions event s.state = next event s.state := by
    generalize s.state = state
    cases hfirst : firstTransition transitions event state with
    | none =>
      rw [hmachines.ignored _ _ _ hfirst]
      cases event <;> cases state <;> first | rfl | cases hfirst
    | some transition =>
      rw [hmachines.taken _ _ _ _ hfirst]
      cases event <;> cases state <;> cases hfirst <;> rfl
  rw [LocalScheduleService.trigger, hnext]

/-- Each applied state is the next thing after the activation that armed it. -/
def AppliedOnce (notes : List Note) : Prop :=
  ∀ before desiredOn after, notes = before ++ .applied desiredOn::after →
    ∃ earlier, before = earlier ++ [.armed desiredOn]

/-- One more note: when it applies a state, the one before it armed that state. -/
theorem AppliedOnce.append {notes : List Note} {note : Note} (h : AppliedOnce notes)
    (hnote : ∀ desiredOn, note = .applied desiredOn →
      ∃ earlier, notes = earlier ++ [.armed desiredOn]) : AppliedOnce (notes ++ [note]) := by
  intro before desiredOn after hsplit
  rcases List.eq_nil_or_concat after with rfl | ⟨front, last, rfl⟩
  · obtain ⟨rfl, hlast⟩ := List.append_inj' hsplit rfl
    exact hnote desiredOn (List.singleton_inj.mp hlast)
  · rw [List.concat_eq_append, ← List.cons_append, ← List.append_assoc] at hsplit
    obtain ⟨hnotes, -⟩ := List.append_inj' hsplit rfl
    exact h before desiredOn front hnotes

/-- The service between two of its calls. -/
structure Scheduled (s : LocalScheduleService) : Prop where
  /-- The task runs once for each restart. -/
  once : s.actionTask.setIterations = some 1
  /-- While it is waited for, its run is left. -/
  last : s.state = .Waiting → s.actionTask.iterations = some 1
  /-- The task is ready exactly while it is waited for. -/
  ready : s.actionTask.ready = true ↔ s.state = .Waiting
  /-- The service is not in the middle of its action. -/
  state : s.state ≠ .Firing
  /-- What is waited for has been noted last. -/
  armed : s.state = .Waiting → ∃ earlier, s.notes = earlier ++ [.armed s.action.desiredOn]
  /-- Nothing has been applied twice. -/
  applied : AppliedOnce s.notes

/-- The service is scheduled once from its start. -/
theorem begin_scheduled : Scheduled begin where
  once := rfl
  last := fun _ => rfl
  ready := by decide
  state := by decide
  armed := by
    intro h
    cases h
  applied := by
    intro before desiredOn after h
    simp [begin] at h

/-- A service that waits for nothing, with its task disabled. -/
theorem scheduled_of_disabled (once : s.actionTask.setIterations = some 1)
    (htask : s.actionTask.enabled = false) (hwaiting : s.state ≠ .Waiting)
    (hfiring : s.state ≠ .Firing) (happlied : AppliedOnce s.notes) : Scheduled s := by
  refine ⟨once, fun h => absurd h hwaiting, ?_, hfiring, fun h => absurd h hwaiting, happlied⟩
  simp [Task.ready, htask, hwaiting]

/-- What an activation adds to the notes. -/
def activationNotes (parsed : Except String (Option DelayedAction)) (accepted : Bool) : List Note :=
  match parsed with
  | .error _ => []
  | .ok none => [.cancelled]
  | .ok (some action) =>
    if !action.enabled then [.cancelled]
    else if accepted then [.armed action.desiredOn]
    else [.refused]

/-- A state that the service can be left in. -/
theorem next_disable {state : ScheduleState} (hstate : state ≠ .Firing) :
    (if state != .Disabled then next .EventDisable state else state) = .Disabled := by
  cases state with
  | Firing => exact absurd rfl hstate
  | _ => rfl

/-- From any of these states the machine gets to wait. -/
theorem next_arm {state : ScheduleState} (hstate : state ≠ .Firing) :
    next .EventArm (if state == .Waiting then next .EventDisable state else state) = .Waiting := by
  cases state with
  | Firing => exact absurd rfl hstate
  | _ => rfl

/-- What a cancellation does outside `Firing`. -/
theorem cancel_eq (hmachines : machines.Takes) (hstate : s.state ≠ .Firing) (result : String) :
    s.cancel machines result = { s with
      state := .Disabled, lastResult := result, notes := s.notes ++ [.cancelled] } := by
  have hdisabled := next_disable hstate
  unfold LocalScheduleService.cancel
  rw [trigger_eq hmachines]
  by_cases hbranch : (s.state != .Disabled) = true
  · rw [if_pos hbranch] at hdisabled ⊢
    simp only [LocalScheduleService.ended, hdisabled]
  · rw [if_neg hbranch] at hdisabled ⊢
    simp only [LocalScheduleService.ended, ← hdisabled]

/-- What arming does outside `Firing`. -/
theorem arm_eq (hmachines : machines.Takes) (hstate : s.state ≠ .Firing) (accepted : Bool) :
    s.arm machines accepted =
      if accepted then
        ({ s with
            actionTask := s.actionTask.restart
            restarts := s.restarts ++ [s.action.delayMs]
            state := .Waiting, lastResult := "waiting"
            notes := s.notes ++ [.armed s.action.desiredOn] }, .ok ())
      else
        ({ s with
            actionTask := s.actionTask.restart.disable
            restarts := s.restarts ++ [s.action.delayMs]
            state := .Fault, lastResult := "scheduler_rejected"
            notes := s.notes ++ [.refused] }, .error "scheduler_rejected") := by
  have hwaiting := next_arm hstate
  have htriggered : (if s.state == .Waiting then s.trigger machines .EventDisable else s) =
      { s with state := if s.state == .Waiting then next .EventDisable s.state else s.state } := by
    rw [trigger_eq hmachines]
    split <;> rfl
  unfold LocalScheduleService.arm
  rw [htriggered]
  simp only [trigger_eq hmachines, hwaiting, LocalScheduleService.restartDelayed,
    LocalScheduleService.ended]
  cases accepted <;> rfl

/-- What an activation leaves. -/
structure Activated (parsed : Except String (Option DelayedAction)) (accepted : Bool)
    (s t : LocalScheduleService) : Prop where
  /-- The service is between two of its calls. -/
  scheduled : Scheduled t
  /-- The activation is noted, and nothing else. -/
  notes : t.notes = s.notes ++ activationNotes parsed accepted

/-- Taking an action keeps the iterations of its task. -/
theorem take_once (found : Option DelayedAction) (revision : ℕ) :
    (s.take found revision).actionTask.setIterations = s.actionTask.setIterations := by
  unfold LocalScheduleService.take
  dsimp only
  split <;> rfl

/-- Taking an action leaves its task disabled. -/
theorem take_disabled (found : Option DelayedAction) (revision : ℕ) :
    (s.take found revision).actionTask.enabled = false := by
  unfold LocalScheduleService.take
  dsimp only
  by_cases henabled : s.actionTask.enabled = true
  · rw [if_pos henabled]
    rfl
  · rw [if_neg henabled]
    simpa using henabled

/-- An activation cancels what waited before it arms anything. -/
theorem activateDocument_spec (hmachines : machines.Takes) (lib : JsonLibrary α) (hs : Scheduled s)
    (accepted : Bool) (raw : String) (revision : ℕ) :
    Activated (parseDocument lib raw) accepted s
      (s.activateDocument machines lib accepted raw revision).1 := by
  unfold LocalScheduleService.activateDocument
  cases parseDocument lib raw with
  | error error =>
    refine ⟨{ hs with }, ?_⟩
    simp [activationNotes]
  | ok found =>
    dsimp only
    have honce := (take_once (s := s) found revision).trans hs.once
    have hdisabled := take_disabled (s := s) found revision
    have hstate : (s.take found revision).state ≠ .Firing := hs.state
    have hnotes : (s.take found revision).notes = s.notes := rfl
    have happlied : AppliedOnce (s.take found revision).notes := hs.applied
    have hcancelled : ∀ result, Scheduled ((s.take found revision).cancel machines result) := by
      intro result
      rw [cancel_eq hmachines hstate]
      refine scheduled_of_disabled honce hdisabled (by simp) (by simp) ?_
      exact happlied.append (by simp)
    cases found with
    | none =>
      refine ⟨hcancelled _, ?_⟩
      rw [cancel_eq hmachines hstate]
      rfl
    | some action =>
      dsimp only
      by_cases henabled : (!action.enabled) = true
      · rw [if_pos henabled]
        refine ⟨hcancelled _, ?_⟩
        rw [cancel_eq hmachines hstate]
        simp only [activationNotes, henabled, if_true, hnotes]
      · have hnote : activationNotes (.ok (some action)) accepted =
            if accepted then [.armed action.desiredOn] else [.refused] := if_neg henabled
        rw [if_neg henabled, arm_eq hmachines hstate]
        cases accepted with
        | false =>
          refine ⟨scheduled_of_disabled honce rfl (by simp) (by simp) ?_,
            congrArg (s.notes ++ ·) hnote.symm⟩
          exact happlied.append (by simp)
        | true =>
          refine ⟨⟨honce, fun _ => honce, ?_, by simp, fun _ => ⟨s.notes, rfl⟩, ?_⟩,
            congrArg (s.notes ++ ·) hnote.symm⟩
          · simp [Task.ready, Task.hasIteration, honce]
          · exact happlied.append (by simp)

/-- The callback of the task applies what was armed last. -/
theorem executeAction_eq (hmachines : machines.Takes) (hstate : s.state = .Waiting) (ok : Bool) :
    s.executeAction machines ok = { s with
      state := if ok then .Completed else .Fault
      lastResult := if ok then "completed" else "target_rejected"
      notes := s.notes ++ [.applied s.action.desiredOn] } := by
  unfold LocalScheduleService.executeAction
  simp only [trigger_eq hmachines, LocalScheduleService.ended, hstate, next]
  cases ok <;> rfl

/-- A pass runs the callback when the service waits, and then only disables the task. -/
theorem pass_scheduled (hmachines : machines.Takes) (hs : Scheduled s) (due ok : Bool) :
    Scheduled (s.pass machines due ok) := by
  unfold LocalScheduleService.pass
  cases henabled : s.actionTask.enabled with
  | false =>
    rw [Task.pass_of_disabled henabled]
    exact hs
  | true =>
    by_cases hready : s.actionTask.ready = true
    · have hwaiting := hs.ready.mp hready
      cases due with
      | false =>
        rw [Task.pass_of_not_due hready]
        exact hs
      | true =>
        rw [Task.pass_of_ready hready]
        have hexecuted := executeAction_eq (s := { s with actionTask := { s.actionTask with
          iterations := s.actionTask.iterations.map (· - 1) } }) hmachines hwaiting ok
        dsimp only at hexecuted ⊢
        rw [if_pos rfl, hexecuted]
        obtain ⟨earlier, harmed⟩ := hs.armed hwaiting
        refine ⟨hs.once, by cases ok <;> simp, ?_, by cases ok <;> simp, by cases ok <;> simp, ?_⟩
        · have hlast := hs.last hwaiting
          cases ok <;> simp [Task.ready, Task.hasIteration, hlast]
        · refine hs.applied.append ?_
          intro desiredOn h
          cases h
          exact ⟨earlier, harmed⟩
    · have hspent : s.actionTask.spent = true := by
        simpa [Task.ready, Task.spent, henabled] using hready
      rw [Task.pass_of_spent hspent]
      refine scheduled_of_disabled hs.once rfl ?_ hs.state hs.applied
      exact fun h => hready (hs.ready.mpr h)

/-- In every run, an action is applied at most once for each activation that arms
it, with the state of the document activated last, and with no other activation
in between. The task is ready exactly while the service waits, and a document
that the parser refuses changes nothing of it. -/
theorem schedules_run (hmachines : machines.Takes) (lib : JsonLibrary α) (labels : List Label) :
    let s := run (step machines lib) begin labels
    (s.actionTask.ready = true ↔ s.state = .Waiting) ∧ s.state ≠ .Firing ∧ AppliedOnce s.notes ∧
    ∀ accepted raw revision,
      (s.activateDocument machines lib accepted raw revision).1.notes =
        s.notes ++ activationNotes (parseDocument lib raw) accepted ∧
      ∀ error, parseDocument lib raw = .error error →
        s.activateDocument machines lib accepted raw revision =
          ({ s with lastResult := error }, .error error) := by
  have hstep : ∀ s label, Scheduled s → Scheduled (step machines lib s label) := by
    intro s label hs
    cases label with
    | activate accepted raw revision =>
      exact (activateDocument_spec hmachines lib hs accepted raw revision).scheduled
    | pass due ok => exact pass_scheduled hmachines hs due ok
  have hs := run_invariant hstep begin_scheduled labels
  refine ⟨hs.ready, hs.state, hs.applied, ?_⟩
  intro accepted raw revision
  refine ⟨(activateDocument_spec hmachines lib hs accepted raw revision).notes, ?_⟩
  intro error hparse
  rw [LocalScheduleService.activateDocument, hparse]

/-- A library whose texts are all the same document, with a schedule. -/
def sampleLibrary : JsonLibrary ℕ where
  deserializeJson _ _ := some <| .obj [("schedules", .arr [.obj [("id", .str "demo.delay.on"),
    ("type", .str "delay_after_activation"), ("target", .str "virtual.schedule_output"),
    ("desired_on", .bool true), ("delay_ms", .int 4000)]])]
  serializeJson _ := ""
  setMember _ document _ _ := document

/-- The second activation is waited for, and its action is applied once. -/
theorem schedules_sample :
    let s := run (step sampleMachines sampleLibrary) begin
      [.activate true "" 1, .activate true "" 2, .pass false true, .pass true true,
        .pass true true]
    (s.notes = [.armed true, .armed true, .applied true] ∧ s.state = .Completed ∧
      s.restarts = [4000, 4000] ∧ s.actionTask.enabled = false) ∧
        AppliedOnce s.notes ∧ s.state ≠ .Firing := by
  intro s
  have hrun := schedules_run sampleMachines_takes sampleLibrary
    [.activate true "" 1, .activate true "" 2, .pass false true, .pass true true,
      .pass true true]
  exact ⟨by decide +kernel, hrun.2.2.1, hrun.2.1⟩

end ProjEsp32.LocalSchedules
