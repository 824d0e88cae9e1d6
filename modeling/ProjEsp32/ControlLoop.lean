import ProjEsp32.RuleLoading
import ProjEsp32.TransitionRuns

/-!
# The control loop

The main loop takes a pass of the task scheduler and then processes eight events
of the bus, in turn; between any two of these steps the input may change and a
configuration may be activated. An accepted request is lost exactly when it finds
the evaluation task enabled without an iteration, as the pass that ran the last
one leaves it.
-/

namespace ProjEsp32.ControlLoop

open ArduinoJson CooperativeTask MachineLibrary RuleEvaluation RuleExecution RuleLoading
open RuntimeCore TransitionRuns VirtualComponents

variable {α : Type} [Zero α] [LT α] [DecidableLT α]

/-- The step that the main loop takes next. -/
inductive Phase where
  | pass
  | process
  deriving DecidableEq

/-- The device: the rule system, the loader and the place in the main loop. -/
structure Device (α : Type) [Zero α] where
  /-- The rule system. -/
  system : System α := {}
  /-- The loader of the persisted rule. -/
  loader : PersistedRuleLoader := {}
  /-- What the main loop does next. -/
  phase : Phase := .pass

/-- What the other tasks of a pass post: two changes of the connectivity
component and one each of the schedule output and the supervisor, at most. -/
structure OtherPosts where
  /-- What is posted, in order. -/
  events : List Event
  /-- There are four at most. -/
  length_le : events.length ≤ 4
  /-- None of them is from the input. -/
  foreign : ∀ e ∈ events, (Event.copied e.type e.source).source ≠ TEMPERATURE_ID

/-- A step of the main loop, or something that happens between two of them. -/
inductive Label (α : Type) where
  | loop (others : OtherPosts)
  | setValue (value : CFloat α)
  | injectFault (faultCode : String)
  | recover
  | disable
  | activate (raw : String) (revision : ℕ)

/-- One handler of an event. The handler of main only writes to the log. -/
def handle (machines : Machines RuntimeState RuntimeEvent) (event : Event) (s : System α) :
    Handler → System α
  | .handleRuntimeEvent => s
  | .eventHandler => s.handleEvent machines event

/-- `process`: the oldest events, each for all handlers. -/
def process (machines : Machines RuntimeState RuntimeEvent) : ℕ → System α → System α
  | 0, s => s
  | maxEvents + 1, s =>
    match s.events.pop with
    | none => s
    | some (event, events) =>
      process machines maxEvents (events.handlers.foldl (handle machines event) { s with events })

/-- Events that are posted one after the other. -/
def postAll (events : List Event) (bus : EventBus Handler) : EventBus Handler :=
  events.foldl (fun bus e => bus.post e.type e.source) bus

/-- A pass of the scheduler: the evaluation task, which is the first one, and
what the other tasks post. -/
def pass (machines : Machines RuntimeState RuntimeEvent) (others : OtherPosts) (s : System α) :
    System α :=
  let passed := s.runtime.evaluationTask.pass true
  let s := { s with runtime.evaluationTask := passed.1 }
  let s := if passed.2 then s.executeEvaluation machines else s
  { s with events := postAll others.events s.events }

/-- The input changes by itself. -/
def changeInput (change : VirtualInput α → EventBus Handler → VirtualInput α × EventBus Handler)
    (s : System α) : System α :=
  let changed := change s.temperature s.events
  { s with temperature := changed.1, events := changed.2 }

/-- `activatePersistedConfiguration`, without the schedule, which posts nothing. -/
def activate (machines : Machines RuntimeState RuntimeEvent) (lib : NumberLibrary α)
    (raw : String) (revision : ℕ) (d : Device α) : Device α :=
  let activated := activateDocument machines lib raw revision d.loader d.system
  { d with loader := activated.1.1, system := activated.1.2 }

/-- One step of the device. -/
def step (machines : Machines RuntimeState RuntimeEvent) (lib : NumberLibrary α) (d : Device α) :
    Label α → Device α
  | .loop others =>
    match d.phase with
    | .pass => { d with system := pass machines others d.system, phase := .process }
    | .process => { d with system := process machines 8 d.system, phase := .pass }
  | .setValue value => { d with system := changeInput (VirtualInput.setValue value) d.system }
  | .injectFault faultCode =>
    { d with system := changeInput (VirtualInput.injectFault faultCode) d.system }
  | .recover => { d with system := changeInput VirtualInput.recover d.system }
  | .disable => { d with system := changeInput VirtualInput.disable d.system }
  | .activate raw revision => activate machines lib raw revision d

/-- The rule system before the first configuration: the part of `setup` that
concerns it, up to the outputs. -/
def wired (machines : Machines RuntimeState RuntimeEvent) : System α :=
  let s : System α := { engine := .clear }
  let s := { s with events := (s.events.subscribe Handler.handleRuntimeEvent).1 }.begin machines
  let s := { s with temperature := s.temperature.begin, heater := {} }
  let enabled := s.heater.enable HEATER_ID false s.events
  let scheduleOutput := VirtualActuator.enable "virtual.schedule_output" false {} enabled.2
  { s with heater := enabled.1, events := scheduleOutput.2 }

/-- `setup`, with the active configuration and its revision. -/
def setup (machines : Machines RuntimeState RuntimeEvent) (lib : NumberLibrary α) (raw : String)
    (revision : ℕ) : Device α :=
  let d := activate machines lib raw revision { system := wired machines }
  { d with system.events := d.system.events.post .SupervisorStateChanged "supervisor" }

/-! ### Requests that are served -/

/-- An accepted request after which nothing was executed or disarmed. -/
def Outstanding (notes : List Note) : Prop :=
  ∃ before after, notes = before ++ .accepted::after ∧ .executed ∉ after ∧ .disarmed ∉ after

/-- Whoever waits for an evaluation waits for a task with an iteration to run. -/
structure Served (s : System α) : Prop where
  /-- An outstanding request waits for a task that will run. -/
  outstanding : Outstanding s.runtime.notes → s.runtime.evaluationTask.ready = true
  /-- And so does what is pending. -/
  pending : s.runtime.pending = true → s.runtime.evaluationTask.ready = true

/-- The rule and the policy that an activation brings. -/
def activated (lib : NumberLibrary α) (raw : String) (revision : ℕ) (s : System α) :
    Option (System α) :=
  match parseDocument lib raw with
  | .ok (some (rule, faultPolicy), parsedRevision) =>
    if parsedRevision = revision then
      match s.engine.configure rule with
      | .ok engine => some { s with engine, runtime.faultPolicy := faultPolicy }
      | .error _ => none
    else none
  | _ => none

/-- The step accepts a request while the task is enabled without an iteration. -/
def Swallows (lib : NumberLibrary α) (d : Device α) : Label α → Prop
  | .loop _ => d.phase = .process ∧ d.system.runtime.evaluationTask.spent = true ∧
      d.system.accepts = true ∧
      ∃ e ∈ d.system.events.pending.take 8, (evaluationReason e).isSome = true
  | .activate raw revision => d.system.runtime.evaluationTask.spent = true ∧
      ∃ s, activated lib raw revision d.system = some s ∧ s.accepts = true
  | _ => False

instance (lib : NumberLibrary α) (d : Device α) :
    ∀ label, Decidable (Swallows lib d label)
  | .loop _ => inferInstanceAs (Decidable (_ ∧ _ ∧ _ ∧ _))
  | .activate raw revision =>
    decidable_of_iff (d.system.runtime.evaluationTask.spent = true ∧
      (activated lib raw revision d.system).any System.accepts = true) (by
        simp only [Swallows, Option.any_eq_true])
  | .setValue _ => inferInstanceAs (Decidable False)
  | .injectFault _ => inferInstanceAs (Decidable False)
  | .recover => inferInstanceAs (Decidable False)
  | .disable => inferInstanceAs (Decidable False)

/-- What holds between any two steps. -/
structure Working (s : System α) : Prop where
  /-- The runtime is between two of its functions. -/
  steady : Steady s
  /-- Main and the runtime are subscribed, in this order. -/
  handlers : s.events.handlers = [.handleRuntimeEvent, .eventHandler]
  /-- The heater is enabled and healthy. -/
  heater : HeaterReady s.heater
  /-- What is pending is what is outstanding. -/
  counted : s.runtime.pending = true ↔ Outstanding s.runtime.notes

variable {machines : Machines RuntimeState RuntimeEvent} {lib : NumberLibrary α}
variable {s t : System α} {d : Device α}

/-! ### Notes -/

/-- A request is outstanding once it is accepted. -/
theorem outstanding_accepted (notes : List Note) : Outstanding (notes ++ [.accepted]) :=
  ⟨notes, [], rfl, by simp, by simp⟩

/-- Any other note ends the wait. -/
theorem not_outstanding_concat {note : Note} (hnote : note ≠ .accepted) (notes : List Note) :
    ¬Outstanding (notes ++ [note]) := by
  rintro ⟨before, after, hsplit, hexecuted, hdisarmed⟩
  rcases List.eq_nil_or_concat after with rfl | ⟨front, last, rfl⟩
  · have hlast := (List.append_inj' hsplit rfl).2
    cases hlast
    exact hnote rfl
  · have hend : before ++ .accepted::front.concat last =
        (before ++ .accepted::front) ++ [last] := by simp
    have hlast := (List.append_inj' (hsplit.trans hend) rfl).2
    cases hlast
    cases note with
    | accepted => exact hnote rfl
    | executed => exact hexecuted (by simp)
    | disarmed => exact hdisarmed (by simp)

/-! ### Refresh and request -/

omit [LT α] [DecidableLT α] in
/-- When pending counts what is outstanding, it is enough to look at it. -/
theorem served_iff (hcounted : s.runtime.pending = true ↔ Outstanding s.runtime.notes) :
    Served s ↔ (s.runtime.pending = true → s.runtime.evaluationTask.ready = true) :=
  ⟨fun h => h.pending, fun h => ⟨fun houtstanding => h (hcounted.mpr houtstanding), h⟩⟩

omit [LT α] [DecidableLT α] in
/-- A refresh keeps the pending flag in step with the notes. -/
theorem counted_refreshed (hcounted : s.runtime.pending = true ↔ Outstanding s.runtime.notes)
    (h : Refreshed s t) : t.runtime.pending = true ↔ Outstanding t.runtime.notes := by
  cases he : s.eligible with
  | true =>
    obtain ⟨_, _, hpending, hnotes⟩ := h.eligible he
    rw [hpending, hnotes]
    exact hcounted
  | false =>
    obtain ⟨_, _, hpending, hnotes⟩ := h.ineligible he
    rw [hpending, hnotes]
    simp [not_outstanding_concat]

omit [LT α] [DecidableLT α] in
/-- A refresh serves what was served. -/
theorem served_refreshed (h : Refreshed s t)
    (hs : s.runtime.pending = true → s.runtime.evaluationTask.ready = true)
    (hpending : t.runtime.pending = true) : t.runtime.evaluationTask.ready = true := by
  cases he : s.eligible with
  | true =>
    obtain ⟨_, htask, hsame, _⟩ := h.eligible he
    rw [htask]
    exact hs (hsame ▸ hpending)
  | false =>
    obtain ⟨_, _, hdropped, _⟩ := h.ineligible he
    rw [hdropped] at hpending
    cases hpending

omit [LT α] [DecidableLT α] in
/-- A request keeps the pending flag in step with the notes. -/
theorem counted_requested (hcounted : s.runtime.pending = true ↔ Outstanding s.runtime.notes)
    (h : Requested s t) : t.runtime.pending = true ↔ Outstanding t.runtime.notes := by
  cases ha : s.accepts with
  | true =>
    obtain ⟨_, _, hpending, hnotes⟩ := h.accepted ha
    rw [hpending, hnotes]
    exact ⟨fun _ => outstanding_accepted _, fun _ => rfl⟩
  | false => exact counted_refreshed hcounted (h.refused ha)

/-- A task is spent, ready, or not enabled. -/
theorem ready_of_not_spent {task : Task} (hspent : ¬task.spent = true)
    (honce : task.setIterations = some 1) :
    (if task.enabled then task else task.restart).ready = true := by
  by_cases henabled : task.enabled = true
  · rw [if_pos henabled]
    simpa [Task.ready, Task.spent, henabled] using hspent
  · rw [if_neg henabled]
    simp [Task.ready, Task.hasIteration, honce]

/-- A request to a spent task does not make it ready. -/
theorem not_ready_of_spent {task : Task} (hspent : task.spent = true) :
    ¬(if task.enabled then task else task.restart).ready = true := by
  simp only [Task.spent, Bool.and_eq_true, Bool.not_eq_true'] at hspent
  rw [if_pos hspent.1]
  simp [Task.ready, hspent.2]

/-- A ready task has its iteration left. -/
theorem not_spent_of_ready {task : Task} (hready : task.ready = true) : ¬task.spent = true := by
  simp only [Task.ready, Bool.and_eq_true] at hready
  simp [Task.spent, hready.2]

omit [LT α] [DecidableLT α] in
/-- A request is served exactly when it is not accepted by a spent task. -/
theorem served_requested (h : Requested s t) (hsteady : Steady s)
    (hs : s.runtime.pending = true → s.runtime.evaluationTask.ready = true) :
    (t.runtime.pending = true → t.runtime.evaluationTask.ready = true) ↔
      ¬(s.runtime.evaluationTask.spent = true ∧ s.accepts = true) := by
  cases ha : s.accepts with
  | true =>
    obtain ⟨_, htask, hpending, _⟩ := h.accepted ha
    rw [htask, hpending]
    constructor
    · rintro hready ⟨hspent, _⟩
      exact not_ready_of_spent hspent (hready rfl)
    · intro hspent _
      exact ready_of_not_spent (fun h => hspent ⟨h, rfl⟩) hsteady.once
  | false => exact ⟨fun _ h => by simp at h, fun _ => served_refreshed (h.refused ha) hs⟩

/-! ### The events of the bus -/

section Steps

omit [LT α] [DecidableLT α]

/-- An event asks for an evaluation, or does nothing. -/
theorem handleEvent_cases (hmachines : machines.Takes) (hs : Steady s) (event : Event) :
    (evaluationReason event = none ∧ s.handleEvent machines event = s) ∨
      ((evaluationReason event).isSome = true ∧ Requested s (s.handleEvent machines event)) := by
  unfold System.handleEvent
  cases hreason : evaluationReason event with
  | none => exact .inl ⟨rfl, rfl⟩
  | some reason => exact .inr ⟨rfl, (request_spec hmachines hs reason).1⟩

/-- The events of the bus and the input have no part in whether the system works. -/
theorem Working.withEvents (hs : Working s) (temperature : VirtualInput α)
    {events : EventBus Handler} (hhandlers : events.handlers = s.events.handlers) :
    Working { s with temperature, events } where
  steady := ⟨hs.steady.started, hs.steady.once, hs.steady.state, hs.steady.armed⟩
  handlers := hhandlers.trans hs.handlers
  heater := hs.heater
  counted := hs.counted

/-- Nor have the rule and the policy. -/
theorem Working.withRule (hs : Working s) (engine : RuleEngine α)
    (faultPolicy : ActuatorFaultPolicy) :
    Working { s with engine, runtime.faultPolicy := faultPolicy } where
  steady := ⟨hs.steady.started, hs.steady.once, hs.steady.state, hs.steady.armed⟩
  handlers := hs.handlers
  heater := hs.heater
  counted := hs.counted

/-- The bus without its oldest event. -/
theorem working_popped (hs : Working s) {event : Event} {rest : EventBus Handler}
    (hpop : s.events.pop = some (event, rest)) : Working { s with events := rest } :=
  hs.withEvents s.temperature (EventBus.pending_of_pop hpop).2

/-- The oldest event goes to the runtime. -/
theorem process_event (hs : Working s) {event : Event} {rest : EventBus Handler}
    (hpop : s.events.pop = some (event, rest)) (maxEvents : ℕ) :
    process machines (maxEvents + 1) s =
      process machines maxEvents (System.handleEvent machines event { s with events := rest }) := by
  have hhandlers : rest.handlers = [.handleRuntimeEvent, .eventHandler] :=
    (EventBus.pending_of_pop hpop).2.trans hs.handlers
  rw [process, hpop]
  dsimp only
  rw [hhandlers]
  rfl

/-- An empty queue is processed without a change. -/
theorem process_empty (hpop : s.events.pop = none) (maxEvents : ℕ) :
    process machines maxEvents s = s := by
  cases maxEvents with
  | zero => rfl
  | succ maxEvents => rw [process, hpop]

/-- A request keeps the system working. -/
theorem Working.requested (hs : Working s) (h : Requested s t) : Working t where
  steady := h.steady
  handlers := by rw [h.kept.events, hs.handlers]
  heater := h.kept.heater ▸ hs.heater
  counted := counted_requested hs.counted h

/-- A refresh keeps the system working. -/
theorem Working.refreshed (hs : Working s) (h : Refreshed s t) : Working t where
  steady := h.steady
  handlers := by rw [h.kept.events, hs.handlers]
  heater := h.kept.heater ▸ hs.heater
  counted := counted_refreshed hs.counted h

/-- An event leaves a system that works. -/
theorem working_handleEvent (hmachines : machines.Takes) (hs : Working s) (event : Event) :
    Working (s.handleEvent machines event) := by
  rcases handleEvent_cases hmachines hs.steady event with ⟨_, heq⟩ | ⟨_, hrequested⟩
  · rw [heq]
    exact hs
  · exact hs.requested hrequested

/-- What every event preserves, processing preserves. -/
theorem process_invariant (hmachines : machines.Takes) {P : System α → Prop}
    (hevent : ∀ s event rest, Working s → P s → s.events.pop = some (event, rest) →
      P (System.handleEvent machines event { s with events := rest }))
    (hs : Working s) (hP : P s) (maxEvents : ℕ) :
    Working (process machines maxEvents s) ∧ P (process machines maxEvents s) := by
  induction maxEvents generalizing s with
  | zero => exact ⟨hs, hP⟩
  | succ maxEvents ih =>
    cases hpop : s.events.pop with
    | none =>
      rw [process_empty hpop]
      exact ⟨hs, hP⟩
    | some popped =>
      obtain ⟨event, rest⟩ := popped
      rw [process_event hs hpop]
      exact ih (working_handleEvent hmachines (working_popped hs hpop) event)
        (hevent s event rest hs hP hpop)

/-- A request that has been swallowed stays so while events are processed. -/
structure Stuck (s : System α) : Prop where
  /-- The request is pending. -/
  pending : s.runtime.pending = true
  /-- The task will not run. -/
  spent : s.runtime.evaluationTask.spent = true
  /-- The rule still accepts requests. -/
  accepts : s.accepts = true

/-- A request that a spent task accepts is stuck. -/
theorem stuck_accepted (h : Requested s t) (hspent : s.runtime.evaluationTask.spent = true)
    (haccepts : s.accepts = true) : Stuck t := by
  obtain ⟨_, htask, hpending, _⟩ := h.accepted haccepts
  have henabled : s.runtime.evaluationTask.enabled = true := by
    simp only [Task.spent, Bool.and_eq_true] at hspent
    exact hspent.1
  refine ⟨hpending, ?_, h.kept.same.accepts.trans haccepts⟩
  rw [htask, if_pos henabled]
  exact hspent

/-- Processing leaves a stuck system stuck. -/
theorem process_stuck (hmachines : machines.Takes) (hs : Working s) (hstuck : Stuck s)
    (maxEvents : ℕ) : Stuck (process machines maxEvents s) := by
  refine (process_invariant hmachines (fun s event rest hs hstuck hpop => ?_) hs hstuck maxEvents).2
  have hpopped : Stuck { s with events := rest } := ⟨hstuck.pending, hstuck.spent, hstuck.accepts⟩
  rcases handleEvent_cases hmachines (working_popped hs hpop).steady event with
    ⟨_, heq⟩ | ⟨_, hrequested⟩
  · rw [heq]
    exact hpopped
  · exact stuck_accepted hrequested hpopped.spent hpopped.accepts

/-- Processing serves every request exactly when none of its events has one
accepted by a spent task. -/
theorem process_served (hmachines : machines.Takes) (hs : Working s)
    (hserved : s.runtime.pending = true → s.runtime.evaluationTask.ready = true) (maxEvents : ℕ) :
    ((process machines maxEvents s).runtime.pending = true →
        (process machines maxEvents s).runtime.evaluationTask.ready = true) ↔
      ¬(s.runtime.evaluationTask.spent = true ∧ s.accepts = true ∧
        ∃ e ∈ s.events.pending.take maxEvents, (evaluationReason e).isSome = true) := by
  induction maxEvents generalizing s with
  | zero => simpa [process] using hserved
  | succ maxEvents ih =>
    cases hpop : s.events.pop with
    | none =>
      rw [process_empty hpop, EventBus.pop_eq_none.mp hpop]
      simpa using hserved
    | some popped =>
      obtain ⟨event, rest⟩ := popped
      rw [process_event hs hpop, (EventBus.pending_of_pop hpop).1, List.take_succ_cons]
      have hpopped := working_popped hs hpop
      have hworking := working_handleEvent hmachines hpopped event
      rcases handleEvent_cases hmachines hpopped.steady event with
        ⟨hnone, heq⟩ | ⟨hsome, hrequested⟩
      · -- nobody asks: the events behind decide
        rw [heq] at hworking ⊢
        rw [ih hworking hserved]
        simp [hnone, System.accepts, System.eligible, System.dependencySuspends,
          System.dependencyHealthy]
      · have hfirst := served_requested hrequested hpopped.steady hserved
        by_cases hswallowed : s.runtime.evaluationTask.spent = true ∧ s.accepts = true
        · -- swallowed: it stays pending in a spent task
          have hstuck : Stuck (System.handleEvent machines event { s with events := rest }) :=
            stuck_accepted hrequested hswallowed.1 hswallowed.2
          have hend := process_stuck hmachines hworking hstuck maxEvents
          constructor
          · intro hready
            exact absurd hend.spent (not_spent_of_ready (hready hend.pending))
          · intro hnot
            exact absurd ⟨hswallowed.1, hswallowed.2, event, List.mem_cons_self, hsome⟩ hnot
        · -- served or refused: the task is not spent for the events behind
          have hnotSpent : ¬((System.handleEvent machines event
              { s with events := rest }).runtime.evaluationTask.spent = true ∧
              (System.handleEvent machines event { s with events := rest }).accepts = true) := by
            rintro ⟨hspent, haccepts⟩
            rw [hrequested.kept.same.accepts] at haccepts
            obtain ⟨_, htask, _⟩ := hrequested.accepted haccepts
            rw [htask] at hspent
            refine not_spent_of_ready ?_ hspent
            exact ready_of_not_spent (fun h => hswallowed ⟨h, haccepts⟩) hs.steady.once
          rw [ih hworking (hfirst.mpr hswallowed)]
          constructor
          · rintro _ ⟨hspent, haccepts, _⟩
            exact hswallowed ⟨hspent, haccepts⟩
          · rintro _ ⟨hspent, haccepts, _⟩
            exact hnotSpent ⟨hspent, haccepts⟩

/-! ### A pass -/

/-- Posts leave the handlers. -/
theorem postAll_handlers (events : List Event) (bus : EventBus Handler) :
    (postAll events bus).handlers = bus.handlers := by
  unfold postAll
  induction events generalizing bus with
  | nil => rfl
  | cons e events ih => rw [List.foldl_cons, ih, EventBus.post_handlers]

/-- The evaluation task is passed over, or it is spent and disabled. -/
theorem pass_of_not_ready [LT α] [DecidableLT α] (machines : Machines RuntimeState RuntimeEvent)
    (h : ¬s.runtime.evaluationTask.ready = true) (others : OtherPosts) :
    ∃ task, (task = s.runtime.evaluationTask ∨ task = s.runtime.evaluationTask.disable) ∧
      pass machines others s = { s with
        runtime.evaluationTask := task, events := postAll others.events s.events } := by
  unfold pass
  by_cases henabled : s.runtime.evaluationTask.enabled = true
  · have hspent : s.runtime.evaluationTask.spent = true := by
      simpa [Task.ready, Task.spent, henabled] using h
    rw [Task.pass_of_spent hspent]
    exact ⟨_, .inr rfl, rfl⟩
  · rw [Task.pass_of_disabled (by simpa using henabled)]
    exact ⟨_, .inl rfl, rfl⟩

/-- The task with its iteration used up, before the callback. -/
def consumed (s : System α) : System α :=
  { s with runtime.evaluationTask :=
    { s.runtime.evaluationTask with
      iterations := s.runtime.evaluationTask.iterations.map (· - 1) } }

/-- Taking the iteration keeps the system steady. -/
theorem consumed_steady (hs : Steady s) : Steady (consumed s) :=
  { hs with }

/-- A ready task runs its callback. -/
theorem pass_of_ready [LT α] [DecidableLT α] (hmachines : machines.Takes) (hs : Working s)
    (h : s.runtime.evaluationTask.ready = true) (others : OtherPosts) :
    ∃ t, Executed (consumed s) t ∧
      pass machines others s = { t with events := postAll others.events t.events } := by
  have henabled : s.runtime.evaluationTask.enabled = true := by
    simp only [Task.ready, Bool.and_eq_true] at h
    exact h.1
  refine ⟨(consumed s).executeEvaluation machines, ?_, ?_⟩
  · exact execute_spec hmachines (consumed_steady hs.steady) (hs.steady.armed henabled) hs.heater
  · unfold pass
    rw [Task.pass_of_ready h]
    rfl

/-- After a run nothing is outstanding. -/
theorem executed_not_outstanding (h : Executed s t) : ¬Outstanding t.runtime.notes := by
  cases he : s.eligible with
  | true =>
    rw [(h.eligible he).2.2]
    exact not_outstanding_concat (by simp) _
  | false =>
    have hnotes : t.runtime.notes = (s.runtime.notes ++ [.executed]) ++ [.disarmed] := by
      rw [(h.ineligible he).2.2, List.append_assoc]
      rfl
    rw [hnotes]
    exact not_outstanding_concat (by simp) _

/-- A run leaves a system that works, with nothing pending. -/
theorem working_executed (hs : Working s) (h : Executed (consumed s) t) :
    Working t ∧ ¬t.runtime.pending = true := by
  have hdone : ¬t.runtime.pending = true := by simp [h.pending]
  refine ⟨?_, hdone⟩
  exact
    { steady := h.steady
      handlers := h.same.handlers.trans hs.handlers
      heater := h.heater
      counted := ⟨fun hpending => absurd hpending hdone,
        fun houtstanding => absurd houtstanding (executed_not_outstanding h)⟩ }

/-- A pass leaves a system that works, and serves what was served. -/
theorem working_pass [LT α] [DecidableLT α] (hmachines : machines.Takes) (hs : Working s)
    (others : OtherPosts) :
    Working (pass machines others s) ∧
      ((s.runtime.pending = true → s.runtime.evaluationTask.ready = true) →
        (pass machines others s).runtime.pending = true →
          (pass machines others s).runtime.evaluationTask.ready = true) := by
  by_cases hready : s.runtime.evaluationTask.ready = true
  · obtain ⟨t, hexecuted, heq⟩ := pass_of_ready hmachines hs hready others
    obtain ⟨hworking, hdone⟩ := working_executed hs hexecuted
    rw [heq]
    exact ⟨hworking.withEvents _ (postAll_handlers _ _), fun _ hpending => absurd hpending hdone⟩
  · obtain ⟨task, htask, heq⟩ := pass_of_not_ready machines hready others
    have honce : task.setIterations = some 1 := by
      rcases htask with rfl | rfl
      · exact hs.steady.once
      · exact hs.steady.once
    have harmed : task.enabled = true → s.runtime.state = .Armed := by
      intro henabled
      rcases htask with rfl | rfl
      · exact hs.steady.armed henabled
      · cases henabled
    have hworking : Working { s with runtime.evaluationTask := task } :=
      { steady := ⟨hs.steady.started, honce, hs.steady.state, harmed⟩
        handlers := hs.handlers
        heater := hs.heater
        counted := hs.counted }
    rw [heq]
    refine ⟨hworking.withEvents _ (postAll_handlers _ _), ?_⟩
    intro hserved hpending
    exact absurd (hserved hpending) hready

/-- A pass that finds a ready task starts the evaluation. -/
theorem pass_executes [LT α] [DecidableLT α] (hmachines : machines.Takes) (hs : Working s)
    (hready : s.runtime.evaluationTask.ready = true) (others : OtherPosts) :
    ∃ after, (pass machines others s).runtime.notes = s.runtime.notes ++ .executed::after := by
  obtain ⟨t, hexecuted, heq⟩ := pass_of_ready hmachines hs hready others
  rw [heq]
  cases he : (consumed s).eligible with
  | true => exact ⟨[], (hexecuted.eligible he).2.2⟩
  | false => exact ⟨[.disarmed], (hexecuted.ineligible he).2.2⟩

/-- A pass leaves nobody waiting who was served before it. -/
theorem pass_not_outstanding [LT α] [DecidableLT α] (hmachines : machines.Takes) (hs : Working s)
    (hserved : Served s) (others : OtherPosts) :
    ¬Outstanding (pass machines others s).runtime.notes := by
  by_cases hready : s.runtime.evaluationTask.ready = true
  · obtain ⟨t, hexecuted, heq⟩ := pass_of_ready hmachines hs hready others
    have hnone : ¬Outstanding t.runtime.notes := executed_not_outstanding hexecuted
    rw [heq]
    exact hnone
  · obtain ⟨task, _, heq⟩ := pass_of_not_ready machines hready others
    rw [heq]
    exact fun houtstanding => hready (hserved.outstanding houtstanding)

/-! ### Inputs and activations -/

/-- A change of the input that only posts. -/
def Posts (change : VirtualInput α → EventBus Handler → VirtualInput α × EventBus Handler) :
    Prop :=
  ∀ input bus, (change input bus).2.handlers = bus.handlers

/-- Setting the input changes the bus by posts alone. -/
theorem posts_setValue (value : CFloat α) : Posts (VirtualInput.setValue value) := by
  intro input bus
  unfold VirtualInput.setValue
  split
  · rfl
  · simp [VirtualInput.transitionTo]

/-- Injecting a fault changes the bus by posts alone. -/
theorem posts_injectFault (faultCode : String) :
    Posts (VirtualInput.injectFault (α := α) faultCode) := by
  intro input bus
  simp [VirtualInput.injectFault, VirtualInput.transitionTo]

/-- Recovering changes the bus by posts alone. -/
theorem posts_recover : Posts (VirtualInput.recover (α := α)) := by
  intro input bus
  unfold VirtualInput.recover
  split <;> simp [VirtualInput.transitionTo]

/-- Disabling changes the bus by posts alone. -/
theorem posts_disable : Posts (VirtualInput.disable (α := α)) := by
  intro input bus
  simp [VirtualInput.disable, VirtualInput.transitionTo]

/-- A change of the input keeps the system working. -/
theorem working_changeInput {change : VirtualInput α → EventBus Handler →
    VirtualInput α × EventBus Handler} (hchange : Posts change) (hs : Working s) :
    Working (changeInput change s) :=
  hs.withEvents _ (hchange s.temperature s.events)

end Steps

/-- An activation changes nothing, clears the engine, or asks for an evaluation
of its rule. -/
theorem activate_cases (lib : NumberLibrary α) (hmachines : machines.Takes) (raw : String)
    (revision : ℕ) (d : Device α) (hs : Working d.system) :
    (activated lib raw revision d.system = none ∧
        (activate machines lib raw revision d).system = d.system) ∨
      (activated lib raw revision d.system = none ∧
        ∃ t, Refreshed { d.system with engine := .clear, runtime.faultPolicy := .SafeOff } t ∧
          Refreshed t (activate machines lib raw revision d).system) ∨
      ∃ s t u, activated lib raw revision d.system = some s ∧ Working s ∧
        s.runtime = { d.system.runtime with faultPolicy := s.runtime.faultPolicy } ∧
        s.events = d.system.events ∧ s.temperature = d.system.temperature ∧
        s.heater = d.system.heater ∧ Refreshed s t ∧ Refreshed t u ∧
        Requested u (activate machines lib raw revision d).system := by
  unfold activate activateDocument activated
  cases hparsed : parseDocument lib raw with
  | error error => exact .inl ⟨rfl, rfl⟩
  | ok parsed =>
    obtain ⟨found, parsedRevision⟩ := parsed
    by_cases hrevision : parsedRevision = revision
    · cases found with
      | none =>
        refine .inr (.inl ⟨rfl, ?_⟩)
        dsimp only
        rw [if_neg (not_not.mpr hrevision)]
        have hfirst := refresh_spec hmachines (hs.withRule .clear .SafeOff).steady
        exact ⟨_, hfirst, refresh_spec hmachines hfirst.steady⟩
      | some ruleAndPolicy =>
        obtain ⟨rule, faultPolicy⟩ := ruleAndPolicy
        dsimp only
        rw [if_pos hrevision, if_neg (not_not.mpr hrevision)]
        unfold applyParsed
        dsimp only
        cases hconfigured : d.system.engine.configure rule with
        | error error => exact .inl ⟨rfl, rfl⟩
        | ok engine =>
          refine .inr (.inr ?_)
          have hworking := hs.withRule engine faultPolicy
          have hfirst := refresh_spec hmachines hworking.steady
          have hsecond := refresh_spec hmachines hfirst.steady
          exact ⟨_, _, _, rfl, hworking, rfl, rfl, rfl, rfl, hfirst, hsecond,
            (request_spec hmachines hsecond.steady "config_activation").1⟩
    · left
      dsimp only
      cases found with
      | none =>
        rw [if_pos hrevision]
        exact ⟨rfl, rfl⟩
      | some ruleAndPolicy =>
        obtain ⟨rule, faultPolicy⟩ := ruleAndPolicy
        dsimp only
        rw [if_neg hrevision, if_pos hrevision]
        exact ⟨rfl, rfl⟩

/-- An activation leaves a system that works. -/
theorem working_activate (hmachines : machines.Takes) (raw : String) (revision : ℕ)
    (hs : Working d.system) : Working (activate machines lib raw revision d).system := by
  rcases activate_cases lib hmachines raw revision d hs with
    ⟨_, heq⟩ | ⟨_, t, hfirst, hsecond⟩ | ⟨s, t, u, _, hworking, _, _, _, _, hfirst, hsecond, hlast⟩
  · rw [heq]
    exact hs
  · exact ((hs.withRule .clear .SafeOff).refreshed hfirst).refreshed hsecond
  · exact ((hworking.refreshed hfirst).refreshed hsecond).requested hlast

/-- An activation serves every request exactly when it does not have one accepted
by a spent task. -/
theorem activate_served (hmachines : machines.Takes) (raw : String) (revision : ℕ)
    (hs : Working d.system)
    (hserved : d.system.runtime.pending = true → d.system.runtime.evaluationTask.ready = true) :
    ((activate machines lib raw revision d).system.runtime.pending = true →
        (activate machines lib raw revision d).system.runtime.evaluationTask.ready = true) ↔
      ¬Swallows lib d (.activate raw revision) := by
  rcases activate_cases lib hmachines raw revision d hs with
    ⟨hnone, heq⟩ | ⟨hnone, t, hfirst, hsecond⟩ |
      ⟨s, t, u, hsome, hworking, hruntime, _, _, _, hfirst, hsecond, hlast⟩
  · rw [heq]
    simpa [Swallows, hnone] using hserved
  · have hfirstServed : t.runtime.pending = true → t.runtime.evaluationTask.ready = true :=
      served_refreshed hfirst hserved
    have hboth := served_refreshed hsecond hfirstServed
    simpa [Swallows, hnone] using hboth
  · have hservedRule : s.runtime.pending = true → s.runtime.evaluationTask.ready = true := by
      rw [hruntime]
      exact hserved
    have hservedRequest := served_requested hlast hsecond.steady
      (served_refreshed hsecond (served_refreshed hfirst hservedRule))
    have haccepts : u.accepts = s.accepts :=
      hsecond.kept.same.accepts.trans hfirst.kept.same.accepts
    have hspent (ha : s.accepts = true) :
        u.runtime.evaluationTask = d.system.runtime.evaluationTask := by
      have he : s.eligible = true := by
        simp only [System.accepts, Bool.and_eq_true] at ha
        exact ha.1
      have htask := (hfirst.eligible he).2.1
      have hagain := (hsecond.eligible (hfirst.kept.same.eligible.trans he)).2.1
      rw [hagain, htask, hruntime]
    rw [hservedRequest, haccepts]
    simp only [Swallows, hsome, Option.some.injEq, exists_eq_left']
    constructor
    · rintro hnot ⟨hdspent, ha⟩
      exact hnot ⟨by rw [hspent ha]; exact hdspent, ha⟩
    · rintro hnot ⟨huspent, ha⟩
      exact hnot ⟨by rw [← hspent ha]; exact huspent, ha⟩

/-! ### Runs -/

/-- The step lemma: the system works after every step. -/
theorem step_working (hmachines : machines.Takes) (hs : Working d.system) (label : Label α) :
    Working (step machines lib d label).system := by
  cases label with
  | loop others =>
    rw [step]
    cases d.phase with
    | pass => exact (working_pass hmachines hs others).1
    | process =>
      exact (process_invariant hmachines (P := fun _ => True) (fun _ _ _ _ _ _ => trivial) hs
        trivial 8).1
  | setValue value => exact working_changeInput (posts_setValue value) hs
  | injectFault faultCode => exact working_changeInput (posts_injectFault faultCode) hs
  | recover => exact working_changeInput posts_recover hs
  | disable => exact working_changeInput posts_disable hs
  | activate raw revision => exact working_activate hmachines raw revision hs

/-- A step serves every request exactly when it swallows none. -/
theorem step_served (hmachines : machines.Takes) (hs : Working d.system)
    (hserved : Served d.system) (label : Label α) :
    Served (step machines lib d label).system ↔ ¬Swallows lib d label := by
  rw [served_iff (step_working hmachines hs label).counted]
  cases label with
  | loop others =>
    rw [step, Swallows]
    cases hphase : d.phase with
    | pass => simpa using (working_pass hmachines hs others).2 hserved.pending
    | process =>
      dsimp only
      rw [process_served hmachines hs hserved.pending 8]
      simp
  | setValue value => exact ⟨fun _ h => h, fun _ => hserved.pending⟩
  | injectFault faultCode => exact ⟨fun _ h => h, fun _ => hserved.pending⟩
  | recover => exact ⟨fun _ h => h, fun _ => hserved.pending⟩
  | disable => exact ⟨fun _ h => h, fun _ => hserved.pending⟩
  | activate raw revision => exact activate_served hmachines raw revision hs hserved.pending

omit [LT α] [DecidableLT α] in
/-- Before the first configuration the runtime is started, and nothing waits. -/
theorem wired_working (machines : Machines RuntimeState RuntimeEvent) :
    Working (wired (α := α) machines) where
  steady := ⟨rfl, rfl, .inr rfl, fun h => by cases h⟩
  handlers := rfl
  heater := ⟨nofun, rfl⟩
  counted := by
    have hdisarmed : Note.disarmed ≠ .accepted := by simp
    exact ⟨nofun, fun h => absurd h (not_outstanding_concat hdisarmed [])⟩

/-- After `setup` the system works, and the request of the first activation is served. -/
theorem setup_working (hmachines : machines.Takes) (raw : String) (revision : ℕ) :
    Working (setup machines lib raw revision).system ∧
      Served (setup machines lib raw revision).system := by
  have hwired : Working (wired (α := α) machines) := wired_working machines
  let d : Device α := activate machines lib raw revision { system := wired machines }
  have hworking : Working d.system := working_activate hmachines raw revision hwired
  have hserved : d.system.runtime.pending = true → d.system.runtime.evaluationTask.ready = true :=
    (activate_served hmachines raw revision hwired (fun h => by cases h)).mpr fun h => by cases h.1
  have hposted : Working (setup machines lib raw revision).system :=
    hworking.withEvents _ EventBus.post_handlers
  exact ⟨hposted, (served_iff hposted.counted).mpr hserved⟩

/-- Along every run, whoever waits for an evaluation waits for a task with an
iteration to run exactly as long as no step swallows a request. As long as that
is so, a pass starts the evaluation that is waited for, and no request is
outstanding after it. -/
theorem acceptedRequests_run (machines : Machines RuntimeState RuntimeEvent)
    (hmachines : machines.Takes) (lib : NumberLibrary α) (raw : String) (revision : ℕ)
    (labels : List (Label α)) :
    let d := setup machines lib raw revision
    Served d.system ∧
    (Throughout (step machines lib) (fun d label => Served (step machines lib d label).system) d
        labels ↔
      Throughout (step machines lib) (fun d label => ¬Swallows lib d label) d labels) ∧
    let e := run (step machines lib) d labels
    ∀ others, e.phase = .pass → Served e.system →
      (e.system.runtime.pending = true → ∃ after,
        (step machines lib e (.loop others)).system.runtime.notes =
          e.system.runtime.notes ++ .executed::after) ∧
      ¬Outstanding (step machines lib e (.loop others)).system.runtime.notes := by
  intro d
  obtain ⟨hworking, hserved⟩ : Working d.system ∧ Served d.system :=
    setup_working hmachines raw revision
  refine ⟨hserved, ?_, ?_⟩
  · refine throughout_congr (I := fun d => Working d.system ∧ Served d.system) ?_ ?_
      ⟨hworking, hserved⟩ labels
    · rintro d label ⟨hs, _⟩ hnext
      exact ⟨step_working hmachines hs label, hnext⟩
    · rintro d label ⟨hs, hserved⟩
      exact step_served hmachines hs hserved label
  · intro e others hphase hservedNow
    have hrun : Working e.system :=
      run_invariant (I := fun d : Device α => Working d.system)
        (fun _ label hs => step_working hmachines hs label) hworking labels
    rw [step, hphase]
    refine ⟨fun hpending => ?_, pass_not_outstanding hmachines hrun hservedNow others⟩
    exact pass_executes hmachines hrun (hservedNow.pending hpending) others

/-! ### A sample configuration -/

/-- A configuration with one rule: the heater goes on below 18 and off above 22. -/
def sampleConfiguration : String :=
  "\x7b\"schema\":1,\"revision\":1,\"rules\":[\x7b\"id\":\"heating\",\"type\":\"hysteresis\"," ++
  "\"input\":\"virtual.temperature\",\"output\":\"virtual.heater\",\"on_below\":18," ++
  "\"off_above\":22\x7d],\"schedules\":[]\x7d"

/-- The document of the sample configuration. -/
def sampleDocument : Json ℕ :=
  .obj [("schema", .int 1), ("revision", .int 1),
    ("rules", .arr [.obj [("id", .str "heating"), ("type", .str "hysteresis"),
      ("input", .str "virtual.temperature"), ("output", .str "virtual.heater"),
      ("on_below", .int 18), ("off_above", .int 22)]]),
    ("schedules", .arr [])]

/-- A JSON library that knows the sample configuration. -/
def sampleLibrary : NumberLibrary ℕ where
  deserializeJson _ text := if text = sampleConfiguration then some sampleDocument else none
  serializeJson _ := sampleConfiguration
  setMember _ document key value := document.withMember key value
  asFloat
    | .int value => .finite value.toNat
    | .float value => value
    | _ => .finite 0

/-- The other tasks post nothing. -/
def quiet : OtherPosts := ⟨[], by decide, by simp⟩

/-- The input changes after the pass that disabled the task: the request is served. -/
theorem acceptedRequests_sample :
    let d := setup sampleMachines sampleLibrary sampleConfiguration 1
    Throughout (step sampleMachines sampleLibrary)
      (fun d label => Served (step sampleMachines sampleLibrary d label).system) d
      [.loop quiet, .loop quiet, .loop quiet, .setValue (.finite 10), .loop quiet] :=
  ((acceptedRequests_run sampleMachines sampleMachines_takes sampleLibrary sampleConfiguration 1
    [.loop quiet, .loop quiet, .loop quiet, .setValue (.finite 10), .loop quiet]).2.1).mpr
    (by decide +kernel)

/-- The input changes right after the pass that ran the first evaluation: the
request is coalesced with nothing, and pending without a task that will run. -/
theorem acceptedRequests_spent :
    ¬ ∀ (machines : Machines RuntimeState RuntimeEvent), machines.Takes →
      ∀ (lib : NumberLibrary ℕ) (raw : String) (revision : ℕ) (labels : List (Label ℕ)),
        Served (run (step machines lib) (setup machines lib raw revision) labels).system := by
  intro h
  have hlost := (h sampleMachines sampleMachines_takes sampleLibrary sampleConfiguration 1
    [.loop quiet, .setValue (.finite 10), .loop quiet]).pending (by decide +kernel)
  exact absurd hlost (by decide +kernel)

end ProjEsp32.ControlLoop
