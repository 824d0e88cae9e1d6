import ProjEsp32.ControlLoop

/-!
# Fail-safe outputs

Where nothing waits in the bus and no evaluation is left to run, the heater is
where the fault policy wants it. The event of a change cannot be dropped without
another one that asks for an evaluation before it in the queue; what remains is
the request that a spent task swallows.
-/

namespace ProjEsp32.FaultSafety

open ArduinoJson CooperativeTask ControlLoop MachineLibrary RuleEvaluation RuleExecution
open RuleLoading RuntimeCore TransitionRuns VirtualComponents

variable {α : Type} [Zero α] [LT α] [DecidableLT α]

/-- No event waits, and no iteration of the evaluation is left to run. -/
structure Quiescent (s : System α) : Prop where
  /-- No event waits. -/
  events : s.events.pending = []
  /-- No evaluation waits. -/
  task : s.runtime.evaluationTask.ready = false

/-- What the fault policies promise of a system where a rule is enabled. -/
structure FailSafe (s : System α) : Prop where
  /-- Under `SAFE_OFF` the output is off while the input is not healthy. -/
  safeOff : s.heater.isEnabled = true → s.temperature.health ≠ .Ok →
    s.runtime.faultPolicy = .SafeOff → s.heater.isOn = false
  /-- Under `SAFE_ON` it is on. -/
  safeOn : s.heater.isEnabled = true → s.temperature.health ≠ .Ok →
    s.runtime.faultPolicy = .SafeOn → s.heater.isOn = true
  /-- Under `DISABLE_RULE` the runtime is disabled. -/
  disableRule : s.temperature.health ≠ .Ok → s.runtime.faultPolicy = .DisableRule →
    s.runtime.state = .Disabled
  /-- With a healthy input it is armed. -/
  armed : s.temperature.health = .Ok → s.runtime.state = .Armed

/-- The step swallows a request while the output is not where the policy wants it. -/
def SwallowsUnsafe (lib : NumberLibrary α) (d : Device α) : Label α → Prop
  | .loop others => Swallows lib d (.loop others) ∧ ¬Safe d.system
  | .activate raw revision => d.system.runtime.evaluationTask.spent = true ∧
      ∃ s, activated lib raw revision d.system = some s ∧ s.accepts = true ∧ ¬Safe s
  | _ => False

instance (s : System α) : Decidable (Safe s) :=
  decidable_of_iff ((s.dependencyHealthy = false → s.engine.isEnabled = true →
      s.runtime.faultPolicy = .SafeOff → s.heater.isOn = false) ∧
    (s.dependencyHealthy = false → s.engine.isEnabled = true →
      s.runtime.faultPolicy = .SafeOn → s.heater.isOn = true))
    ⟨fun h => ⟨h.1, h.2⟩, fun h => ⟨h.off, h.on⟩⟩

instance (lib : NumberLibrary α) (d : Device α) :
    ∀ label, Decidable (SwallowsUnsafe lib d label)
  | .loop _ => inferInstanceAs (Decidable (_ ∧ _))
  | .activate raw revision =>
    decidable_of_iff (d.system.runtime.evaluationTask.spent = true ∧
      (activated lib raw revision d.system).any (fun s => s.accepts && !decide (Safe s)) = true)
      (by simp [SwallowsUnsafe, Option.any_eq_true])
  | .setValue _ => inferInstanceAs (Decidable False)
  | .injectFault _ => inferInstanceAs (Decidable False)
  | .recover => inferInstanceAs (Decidable False)
  | .disable => inferInstanceAs (Decidable False)

/-- An event that asks for an evaluation waits. -/
def Awaited (bus : EventBus Handler) : Prop :=
  ∃ e ∈ bus.pending, (evaluationReason e).isSome = true

/-- The runtime is armed if the rule is eligible, and the output is safe or about
to be. -/
structure Settled (s : System α) : Prop where
  /-- An eligible rule has the runtime armed. -/
  armed : s.eligible = true → s.runtime.state = .Armed
  /-- Another one has it disabled. -/
  disarmed : s.eligible = false → s.runtime.state = .Disabled
  /-- The output is safe, or an evaluation waits. -/
  safe : s.runtime.evaluationTask.ready = true ∨ Safe s

/-- The health of the input goes with its state. -/
def healthOf : VirtualInput.State → HealthState
  | .Disabled => .Disabled
  | .Ready => .Ok
  | .Fault => .Fault

/-- The events of the queue that leave room for a change of the input. -/
def roomLimit : Phase → ℕ
  | .pass => 16
  | .process => 22

/-- What holds between any two steps. -/
structure Guarded (d : Device α) : Prop where
  /-- The system works. -/
  working : Working d.system
  /-- The health of the input is that of its state. -/
  input : d.system.temperature.health = healthOf d.system.temperature.component.state
  /-- An event asks for an evaluation, or the queue has room for one. -/
  room : Awaited d.system.events ∨ d.system.events.pending.length ≤ roomLimit d.phase
  /-- An event asks for an evaluation, or the system is settled. -/
  settled : Awaited d.system.events ∨ Settled d.system

variable {machines : Machines RuntimeState RuntimeEvent} {lib : NumberLibrary α}
variable {s t : System α} {d : Device α}

/-! ### Events -/

section Events

omit [Zero α] [LT α] [DecidableLT α]

/-- Posts that ask for no evaluation leave what is awaited. -/
theorem Awaited.posted {before after : EventBus Handler} {bound : ℕ}
    (h : Posted bound before after) : Awaited after ↔ Awaited before := by
  constructor
  · rintro ⟨e, he, hreason⟩
    rcases h.added e he with hold | hnone
    · exact ⟨e, hold, hreason⟩
    · rw [hnone] at hreason
      cases hreason
  · rintro ⟨e, he, hreason⟩
    exact ⟨e, h.kept e he, hreason⟩

/-- What waits goes on waiting. -/
theorem Awaited.post {bus : EventBus Handler} (h : Awaited bus) (type : RuntimeEventType)
    (source : String) : Awaited (bus.post type source) := by
  obtain ⟨e, he, hreason⟩ := h
  exact ⟨e, EventBus.mem_post he, hreason⟩

/-- Where a few events are posted that nobody evaluates there is room left. -/
theorem room_posted {before after : EventBus Handler} {bound : ℕ} (h : Posted bound before after)
    (hbound : bound ≤ 6) (hroom : Awaited before ∨ before.pending.length ≤ roomLimit .pass) :
    Awaited after ∨ after.pending.length ≤ roomLimit .process := by
  refine hroom.imp (Awaited.posted h).mpr fun hbefore => ?_
  have hafter := h.length_le
  simp only [roomLimit] at hbefore ⊢
  omega

/-- The other tasks post what nobody evaluates. -/
theorem posted_postAll (events : List Event)
    (hforeign : ∀ e ∈ events, (Event.copied e.type e.source).source ≠ TEMPERATURE_ID)
    (bus : EventBus Handler) : Posted events.length bus (postAll events bus) := by
  induction events generalizing bus with
  | nil => exact .refl bus 0
  | cons e events ih =>
    have hreason : evaluationReason (.copied e.type e.source) = none := by
      rw [evaluationReason, if_pos (by simpa using hforeign e List.mem_cons_self)]
    have htail := ih (fun e he => hforeign e (List.mem_cons_of_mem _ he)) (bus.post e.type e.source)
    have hboth := (posted_post e.type e.source bus hreason).trans htail
    rw [List.length_cons, Nat.add_comm]
    exact hboth

/-- Both events of the input ask for an evaluation. -/
theorem evaluationReason_health :
    (evaluationReason (.copied .ComponentHealthChanged TEMPERATURE_ID)).isSome = true := by
  decide

/-- A new value of the input asks for an evaluation. -/
theorem evaluationReason_value :
    (evaluationReason (.copied .InputValueChanged TEMPERATURE_ID)).isSome = true := by
  decide

end Events

/-! ### Requests -/

section Requests

omit [LT α] [DecidableLT α]

/-- A rule that is not eligible is safe: it is disabled, or suspended by another policy. -/
theorem safe_of_ineligible (he : s.eligible = false) : Safe s := by
  have hpolicy : s.dependencyHealthy = false → s.engine.isEnabled = true →
      s.runtime.faultPolicy = .DisableRule := by
    intro hhealthy henabled
    simpa [System.eligible, System.dependencySuspends, henabled, hhealthy] using he
  refine ⟨fun hhealthy henabled hoff => ?_, fun hhealthy henabled hon => ?_⟩
  · rw [hpolicy hhealthy henabled] at hoff
    cases hoff
  · rw [hpolicy hhealthy henabled] at hon
    cases hon

/-- A request is refused only where nothing is asked of the output. -/
theorem safe_of_refused (ha : s.accepts = false) : Safe s := by
  cases he : s.eligible with
  | false => exact safe_of_ineligible he
  | true =>
    refine Safe.of_healthy ?_
    cases hhealthy : s.dependencyHealthy with
    | true => rfl
    | false => simp [System.accepts, he, hhealthy] at ha

/-- The queue has no part in whether the system is settled. -/
theorem Settled.withEvents {events : EventBus Handler} (h : Settled s) :
    Settled { s with events } where
  armed := h.armed
  disarmed := h.disarmed
  safe := h.safe.imp id safe_events.mpr

/-- After a refresh the runtime is armed or disarmed. -/
theorem settled_refreshed (h : Refreshed s t) (hsafe : Safe s) : Settled t where
  armed := fun he => (h.eligible (h.kept.same.eligible ▸ he)).1
  disarmed := fun he => (h.ineligible (h.kept.same.eligible ▸ he)).1
  safe := .inr (hsafe.same h.kept.same h.kept.heater)

/-- After a request the output is safe or about to be, unless the request was
accepted by a spent task. -/
theorem settled_requested (h : Requested s t) (hsteady : Steady s)
    (hswallows : ¬(s.runtime.evaluationTask.spent = true ∧ s.accepts = true ∧ ¬Safe s)) :
    Settled t := by
  cases ha : s.accepts with
  | false => exact settled_refreshed (h.refused ha) (safe_of_refused ha)
  | true =>
    obtain ⟨hstate, htask, _, _⟩ := h.accepted ha
    have he : s.eligible = true := by
      simp only [System.accepts, Bool.and_eq_true] at ha
      exact ha.1
    refine ⟨fun _ => hstate, fun hnot => ?_, ?_⟩
    · rw [h.kept.same.eligible, he] at hnot
      cases hnot
    · by_cases hsafe : Safe s
      · exact .inr (hsafe.same h.kept.same h.kept.heater)
      · left
        rw [htask]
        exact ready_of_not_spent (fun hspent => hswallows ⟨hspent, ha, hsafe⟩) hsteady.once

/-- A swallowed request would be unsafe after the request only if it is before. -/
theorem not_swallows_requested (h : Requested s t) (hsteady : Steady s)
    (hswallows : ¬(s.runtime.evaluationTask.spent = true ∧ s.accepts = true ∧ ¬Safe s)) :
    ¬(t.runtime.evaluationTask.spent = true ∧ t.accepts = true ∧ ¬Safe t) := by
  rintro ⟨hspent, ha, hunsafe⟩
  rw [h.kept.same.accepts] at ha
  rcases (settled_requested h hsteady hswallows).safe with hready | hsafe
  · exact not_spent_of_ready hready hspent
  · exact hunsafe hsafe

end Requests

/-! ### Processing -/

section Processing

omit [LT α] [DecidableLT α]

/-- Every event that is processed leaves the queue, and none enters it. -/
theorem process_length (hmachines : machines.Takes) (hs : Working s) (maxEvents : ℕ) :
    (process machines maxEvents s).events.pending.length ≤ s.events.pending.length - maxEvents := by
  induction maxEvents generalizing s with
  | zero => exact Nat.le_refl _
  | succ maxEvents ih =>
    cases hpop : s.events.pop with
    | none =>
      rw [process_empty hpop, EventBus.pop_eq_none.mp hpop]
      exact Nat.zero_le _
    | some popped =>
      obtain ⟨event, rest⟩ := popped
      rw [process_event hs hpop]
      have hpopped := working_popped hs hpop
      have hkept : (System.handleEvent machines event { s with events := rest }).events = rest := by
        rcases handleEvent_cases hmachines hpopped.steady event with ⟨_, heq⟩ | ⟨_, hrequested⟩
        · rw [heq]
        · exact hrequested.kept.events
      have htail := ih (working_handleEvent hmachines hpopped event)
      rw [hkept] at htail
      rw [(EventBus.pending_of_pop hpop).1, List.length_cons]
      omega

/-- What `process` keeps of the input. -/
theorem process_temperature (hmachines : machines.Takes) (hs : Working s) (maxEvents : ℕ) :
    (process machines maxEvents s).temperature = s.temperature := by
  refine (process_invariant hmachines (P := fun t => t.temperature = s.temperature)
    (fun t event rest ht htemperature hpop => ?_) hs rfl maxEvents).2
  rcases handleEvent_cases hmachines (working_popped ht hpop).steady event with
    ⟨_, heq⟩ | ⟨_, hrequested⟩
  · rw [heq]
    exact htemperature
  · exact hrequested.kept.temperature.trans htemperature

/-- Processing settles the system, or leaves an event that will. -/
theorem process_settled (hmachines : machines.Takes) (hs : Working s)
    (hsettled : Awaited s.events ∨ Settled s) (maxEvents : ℕ)
    (hswallows : ¬(s.runtime.evaluationTask.spent = true ∧ s.accepts = true ∧ ¬Safe s ∧
      ∃ e ∈ s.events.pending.take maxEvents, (evaluationReason e).isSome = true)) :
    Awaited (process machines maxEvents s).events ∨ Settled (process machines maxEvents s) := by
  induction maxEvents generalizing s with
  | zero => exact hsettled
  | succ maxEvents ih =>
    cases hpop : s.events.pop with
    | none =>
      rw [process_empty hpop]
      exact hsettled
    | some popped =>
      obtain ⟨event, rest⟩ := popped
      obtain ⟨hpending, _⟩ := EventBus.pending_of_pop hpop
      rw [process_event hs hpop]
      have hpopped := working_popped hs hpop
      have hworking := working_handleEvent hmachines hpopped event
      rw [hpending, List.take_succ_cons] at hswallows
      rcases handleEvent_cases hmachines hpopped.steady event with
        ⟨hnone, heq⟩ | ⟨hsome, hrequested⟩
      · -- nobody asks: whatever waited waits behind the event
        rw [heq] at hworking ⊢
        refine ih hworking ?_ ?_
        · rcases hsettled with ⟨e, he, hreason⟩ | hsettled
          · rw [hpending, List.mem_cons] at he
            rcases he with rfl | he
            · rw [hnone] at hreason
              cases hreason
            · exact .inl ⟨e, he, hreason⟩
          · exact .inr hsettled.withEvents
        · rintro ⟨hspent, haccepts, hunsafe, e, he, hreason⟩
          exact hswallows ⟨hspent, haccepts, fun hsafe => hunsafe (safe_events.mpr hsafe), e,
            List.mem_cons_of_mem _ he, hreason⟩
      · have hfirst : ¬(s.runtime.evaluationTask.spent = true ∧ s.accepts = true ∧
            ¬Safe { s with events := rest }) := by
          rintro ⟨hspent, haccepts, hunsafe⟩
          exact hswallows ⟨hspent, haccepts, fun hsafe => hunsafe (safe_events.mpr hsafe), event,
            List.mem_cons_self, hsome⟩
        refine ih hworking (.inr (settled_requested hrequested hpopped.steady hfirst)) ?_
        rintro ⟨hspent, haccepts, hunsafe, _⟩
        exact not_swallows_requested hrequested hpopped.steady hfirst ⟨hspent, haccepts, hunsafe⟩

end Processing

/-! ### Changes of the input -/

section Inputs

omit [LT α] [DecidableLT α]

/-- A change of the input that is announced: an event that asks for an evaluation
waits, or the bus and the health are as before. -/
def Announces (change : VirtualInput α → EventBus Handler → VirtualInput α × EventBus Handler) :
    Prop :=
  ∀ input bus, input.health = healthOf input.component.state →
    (Awaited bus ∨ bus.pending.length ≤ roomLimit .process) →
    (change input bus).1.health = healthOf (change input bus).1.component.state ∧
      (Awaited (change input bus).2 ∨
        ((change input bus).2 = bus ∧ (change input bus).1.health = input.health))

/-- A state says which health goes with it. -/
theorem healthOf_injective : Function.Injective healthOf := by
  intro first second h
  cases first <;> cases second <;> first | rfl | cases h

/-- A transition to the health of its state is announced. -/
theorem announces_transitionTo (nextState : VirtualInput.State) (faultCode : String) :
    Announces (VirtualInput.transitionTo (α := α) (H := Handler) nextState (healthOf nextState)
      faultCode) := by
  intro input bus hinput hroom
  refine ⟨rfl, ?_⟩
  unfold VirtualInput.transitionTo
  dsimp only
  rcases hroom with ⟨e, he, hreason⟩ | hroom
  · exact .inl ⟨e, mem_transitionTo he, hreason⟩
  by_cases hchanged : healthOf nextState ≠ input.component.health.state ∨
      ArduinoText.cString faultCode ≠ input.component.health.faultCode
  · have hlast : bus.pending.length + 1 < QUEUE_SIZE := by
      simp only [roomLimit, QUEUE_SIZE] at hroom ⊢
      omega
    exact .inl ⟨_, health_mem_transitionTo hlast hchanged, evaluationReason_health⟩
  · simp only [not_or, not_not] at hchanged
    have hstate : nextState = input.component.state :=
      healthOf_injective (hchanged.1.trans hinput)
    rw [transitionTo_unchanged hstate hchanged.1 hchanged.2]
    exact .inr ⟨rfl, rfl⟩

/-- Setting the input announces what it changes. -/
theorem announces_setValue (value : CFloat α) : Announces (VirtualInput.setValue value) := by
  intro input bus hinput hroom
  unfold VirtualInput.setValue
  by_cases hfinite : (!value.isfinite) = true
  · rw [if_pos hfinite]
    exact ⟨hinput, .inr ⟨rfl, rfl⟩⟩
  · rw [if_neg hfinite]
    obtain ⟨hmatched, hannounced⟩ := announces_transitionTo .Ready ""
      { input with value, hasValue := true } bus hinput hroom
    refine ⟨hmatched, .inl ?_⟩
    rcases hannounced with hawaited | ⟨hbus, _⟩
    · exact hawaited.post .InputValueChanged TEMPERATURE_ID
    · -- nothing has changed but the value: its own event asks
      change (VirtualInput.transitionTo .Ready .Ok ""
        { input with value, hasValue := true } bus).2 = bus at hbus
      dsimp only
      rw [hbus]
      rcases hroom with hawaited | hroom
      · exact hawaited.post .InputValueChanged TEMPERATURE_ID
      · have hlast : bus.pending.length < QUEUE_SIZE := by
          simp only [roomLimit, QUEUE_SIZE] at hroom ⊢
          omega
        exact ⟨_, EventBus.copied_mem_post hlast, evaluationReason_value⟩

/-- Injecting a fault announces what it changes. -/
theorem announces_injectFault (faultCode : String) :
    Announces (VirtualInput.injectFault (α := α) faultCode) :=
  announces_transitionTo .Fault _

/-- Recovering announces what it changes. -/
theorem announces_recover : Announces (VirtualInput.recover (α := α)) := by
  intro input bus hinput hroom
  unfold VirtualInput.recover
  by_cases hvalue : input.hasValue = true
  · rw [if_pos hvalue]
    exact announces_transitionTo .Ready "" input bus hinput hroom
  · rw [if_neg hvalue]
    exact announces_transitionTo .Disabled "" input bus hinput hroom

/-- Disabling announces what it changes. -/
theorem announces_disable : Announces (VirtualInput.disable (α := α)) := by
  intro input bus hinput hroom
  exact announces_transitionTo .Disabled "" { input with hasValue := false } bus hinput hroom

/-- What waits in the queue, or the room in it, before a change of the input. -/
theorem Guarded.input_room (hs : Guarded d) :
    Awaited d.system.events ∨ d.system.events.pending.length ≤ roomLimit .process := by
  refine hs.room.imp id fun hroom => Nat.le_trans hroom ?_
  cases d.phase <;> decide

/-- An announced change keeps the guard. -/
theorem guarded_changeInput {change : VirtualInput α → EventBus Handler →
    VirtualInput α × EventBus Handler} (hposts : Posts change) (hannounces : Announces change)
    (hs : Guarded d) : Guarded { d with system := changeInput change d.system } := by
  obtain ⟨hmatched, hannounced⟩ := hannounces d.system.temperature d.system.events hs.input
    hs.input_room
  have hworking := working_changeInput hposts hs.working
  rcases hannounced with hawaited | ⟨hbus, hhealth⟩
  · exact ⟨hworking, hmatched, .inl hawaited, .inl hawaited⟩
  · have hevents : (changeInput change d.system).events = d.system.events := hbus
    have hhealthy : (changeInput change d.system).dependencyHealthy =
        d.system.dependencyHealthy := by
      rw [System.dependencyHealthy, System.dependencyHealthy, ← hhealth]
      rfl
    have heligible : (changeInput change d.system).eligible = d.system.eligible := by
      rw [System.eligible, System.eligible, System.dependencySuspends, System.dependencySuspends,
        hhealthy]
      rfl
    refine ⟨hworking, hmatched, ?_, ?_⟩
    · rw [hevents]
      exact hs.room
    · rw [hevents]
      refine hs.settled.imp id fun hsettled => ⟨fun he => ?_, fun he => ?_, ?_⟩
      · exact hsettled.armed (heligible ▸ he)
      · exact hsettled.disarmed (heligible ▸ he)
      · refine hsettled.safe.imp id fun hsafe => ⟨?_, ?_⟩
        · rw [hhealthy]
          exact hsafe.off
        · rw [hhealthy]
          exact hsafe.on

end Inputs

/-! ### Steps of the main loop -/

/-- A pass settles what it runs, and leaves room for a change of the input. -/
theorem guarded_pass (hmachines : machines.Takes) (hs : Guarded d) (hphase : d.phase = .pass)
    (others : OtherPosts) :
    Guarded { d with system := pass machines others d.system, phase := .process } := by
  have hworking := (working_pass hmachines hs.working others).1
  have hroom := hs.room
  rw [hphase] at hroom
  by_cases hready : d.system.runtime.evaluationTask.ready = true
  · obtain ⟨t, hexecuted, heq⟩ := pass_of_ready hmachines hs.working hready others
    have hposted : Posted (2 + others.events.length) d.system.events
        (pass machines others d.system).events := by
      rw [heq]
      exact hexecuted.posted.trans (posted_postAll _ others.foreign _)
    refine ⟨hworking, ?_, ?_, .inr ?_⟩
    · rw [heq]
      have hinput := hs.input
      rw [show t.temperature = d.system.temperature from hexecuted.same.temperature]
      exact hinput
    · have hothers := others.length_le
      exact room_posted hposted (by omega) hroom
    · rw [heq]
      refine ⟨fun he => ?_, fun he => ?_, .inr (safe_events.mpr hexecuted.safe)⟩
      · exact (hexecuted.eligible (hexecuted.same.eligible ▸ he)).2.1
      · exact (hexecuted.ineligible (hexecuted.same.eligible ▸ he)).1
  · obtain ⟨task, htask, heq⟩ := pass_of_not_ready machines hready others
    have hposted : Posted others.events.length d.system.events
        (pass machines others d.system).events := by
      rw [heq]
      exact posted_postAll _ others.foreign _
    refine ⟨hworking, by rw [heq]; exact hs.input, ?_, ?_⟩
    · have hothers := others.length_le
      exact room_posted hposted (by omega) hroom
    · refine hs.settled.imp (Awaited.posted hposted).mpr fun hsettled => ?_
      rw [heq]
      refine ⟨hsettled.armed, hsettled.disarmed, .inr ?_⟩
      have hsafe := hsettled.safe.resolve_left hready
      exact ⟨hsafe.off, hsafe.on⟩

/-- Eight events make room, and settle the system unless a spent task swallows a
request. -/
theorem guarded_process (hmachines : machines.Takes) (hs : Guarded d) (hphase : d.phase = .process)
    (others : OtherPosts) (hswallows : ¬SwallowsUnsafe lib d (.loop others)) :
    Guarded { d with system := process machines 8 d.system, phase := .pass } where
  working := (process_invariant hmachines (P := fun _ => True) (fun _ _ _ _ _ _ => trivial)
    hs.working trivial 8).1
  input := by
    rw [process_temperature hmachines hs.working]
    exact hs.input
  room := by
    have hprocessed := process_length hmachines hs.working 8
    have hfull := EventBus.length_pending_le d.system.events
    simp only [QUEUE_SIZE] at hfull
    right
    simp only [roomLimit]
    omega
  settled := by
    refine process_settled hmachines hs.working hs.settled 8 ?_
    rintro ⟨hspent, haccepts, hunsafe, hevents⟩
    exact hswallows ⟨⟨hphase, hspent, haccepts, hevents⟩, hunsafe⟩

/-- An activation keeps the queue. -/
theorem activate_events (lib : NumberLibrary α) (hmachines : machines.Takes) (raw : String)
    (revision : ℕ) (hs : Working d.system) :
    (activate machines lib raw revision d).system.events = d.system.events ∧
      (activate machines lib raw revision d).system.temperature = d.system.temperature := by
  rcases activate_cases lib hmachines raw revision d hs with
    ⟨_, heq⟩ | ⟨_, t, hfirst, hsecond⟩ |
      ⟨s, t, u, _, _, _, hevents, htemperature, _, hfirst, hsecond, hlast⟩
  · rw [heq]
    exact ⟨rfl, rfl⟩
  · exact ⟨hsecond.kept.events.trans hfirst.kept.events,
      hsecond.kept.temperature.trans hfirst.kept.temperature⟩
  · refine ⟨?_, ?_⟩
    · rw [hlast.kept.events, hsecond.kept.events, hfirst.kept.events, hevents]
    · rw [hlast.kept.temperature, hsecond.kept.temperature, hfirst.kept.temperature, htemperature]

/-- An activation settles the system, or leaves it as it was. -/
theorem activate_settled (hmachines : machines.Takes) (raw : String) (revision : ℕ)
    (hs : Working d.system) (hsettled : Awaited d.system.events ∨ Settled d.system)
    (hswallows : ¬SwallowsUnsafe lib d (.activate raw revision)) :
    Awaited (activate machines lib raw revision d).system.events ∨
      Settled (activate machines lib raw revision d).system := by
  rcases activate_cases lib hmachines raw revision d hs with
    ⟨_, heq⟩ | ⟨_, t, hfirst, hsecond⟩ |
      ⟨s, t, u, hsome, hworking, hruntime, _, _, _, hfirst, hsecond, hlast⟩
  · rw [heq]
    exact hsettled
  · have hcleared : System.eligible { d.system with
        engine := .clear, runtime.faultPolicy := .SafeOff } = false := rfl
    have hagain : t.eligible = false := hfirst.kept.same.eligible.trans hcleared
    exact .inr (settled_refreshed hsecond (safe_of_ineligible hagain))
  · right
    refine settled_requested hlast hsecond.steady ?_
    rintro ⟨hspent, haccepts, hunsafe⟩
    have hsame : s.accepts = true := by
      rw [← haccepts, hsecond.kept.same.accepts, hfirst.kept.same.accepts]
    have he : s.eligible = true := by
      simp only [System.accepts, Bool.and_eq_true] at hsame
      exact hsame.1
    have htask : u.runtime.evaluationTask = d.system.runtime.evaluationTask := by
      rw [(hsecond.eligible (hfirst.kept.same.eligible.trans he)).2.1, (hfirst.eligible he).2.1,
        hruntime]
    refine hswallows ⟨htask ▸ hspent, s, hsome, hsame, fun hsafe => hunsafe ?_⟩
    exact (hsafe.same hfirst.kept.same hfirst.kept.heater).same hsecond.kept.same
      hsecond.kept.heater

/-- The step lemma. -/
theorem step_guarded (hmachines : machines.Takes) (hs : Guarded d) (label : Label α)
    (hswallows : ¬SwallowsUnsafe lib d label) : Guarded (step machines lib d label) := by
  cases label with
  | loop others =>
    rw [step]
    cases hphase : d.phase with
    | pass => exact guarded_pass hmachines hs hphase others
    | process => exact guarded_process hmachines hs hphase others hswallows
  | setValue value => exact guarded_changeInput (posts_setValue value) (announces_setValue value) hs
  | injectFault faultCode =>
    exact guarded_changeInput (posts_injectFault faultCode) (announces_injectFault faultCode) hs
  | recover => exact guarded_changeInput posts_recover announces_recover hs
  | disable => exact guarded_changeInput posts_disable announces_disable hs
  | activate raw revision =>
    obtain ⟨hevents, htemperature⟩ := activate_events lib hmachines raw revision hs.working
    refine ⟨working_activate hmachines raw revision hs.working, ?_, ?_,
      activate_settled hmachines raw revision hs.working hs.settled hswallows⟩
    · rw [step, htemperature]
      exact hs.input
    · rw [step, hevents]
      exact hs.room

omit [LT α] [DecidableLT α] in
/-- A post that nobody evaluates keeps the guard while there is room for it. -/
theorem guarded_post {type : RuntimeEventType} {source : String} {phase : Phase}
    (hworking : Working s) (hinput : s.temperature.health = healthOf s.temperature.component.state)
    (hreason : evaluationReason (.copied type source) = none)
    (hroom : s.events.pending.length + 1 ≤ roomLimit phase)
    (hsettled : Awaited s.events ∨ Settled s) (loader : PersistedRuleLoader) :
    Guarded { system := { s with events := s.events.post type source }, loader, phase } := by
  have hposted := posted_post type source s.events hreason
  exact
    { working := hworking.withEvents _ hposted.handlers
      input := hinput
      room := .inr (Nat.le_trans hposted.length_le hroom)
      settled := hsettled.imp (Awaited.posted hposted).mpr fun h => h.withEvents }

/-- After `setup` the guard holds. -/
theorem setup_guarded (hmachines : machines.Takes) (raw : String) (revision : ℕ) :
    Guarded (setup machines lib raw revision) := by
  have hwired : Working (wired (α := α) machines) := wired_working machines
  have hsettled : Settled (wired (α := α) machines) :=
    ⟨nofun, fun _ => rfl, .inr (safe_of_ineligible rfl)⟩
  have hnothing : ¬SwallowsUnsafe lib ({ system := wired machines } : Device α)
      (.activate raw revision) := fun h => by cases h.1
  obtain ⟨hevents, htemperature⟩ := activate_events (d := { system := wired machines }) lib
    hmachines raw revision hwired
  have hworking : Working (activate machines lib raw revision
      ({ system := wired machines } : Device α)).system :=
    working_activate hmachines raw revision hwired
  have hstays := activate_settled hmachines raw revision hwired (.inr hsettled) hnothing
  have hfew : (wired (α := α) machines).events.pending.length = 4 := rfl
  have hinput : (wired (α := α) machines).temperature.health =
      healthOf (wired (α := α) machines).temperature.component.state := rfl
  unfold setup
  generalize activate machines lib raw revision { system := wired machines } = d at *
  have hnobody : evaluationReason (.copied .SupervisorStateChanged "supervisor") = none :=
    evaluationReason_of_type (by simp [Event.copied]) (by simp [Event.copied])
  refine guarded_post hworking ?_ hnobody ?_ hstays _
  · rw [htemperature]
    exact hinput
  · rw [hevents]
    dsimp only at hfew ⊢
    rw [hfew]
    cases d.phase <;> decide

omit [LT α] [DecidableLT α] in
/-- In a quiescent state what is settled is safe. -/
theorem failSafe_of_quiescent (hs : Guarded d) (hquiescent : Quiescent d.system)
    (henabled : d.system.engine.isEnabled = true) : FailSafe d.system := by
  have hnone : ¬Awaited d.system.events := by
    rintro ⟨e, he, _⟩
    rw [hquiescent.events] at he
    cases he
  have hsettled := hs.settled.resolve_left hnone
  have hsafe : Safe d.system := by
    refine hsettled.safe.resolve_left fun hready => ?_
    rw [hquiescent.task] at hready
    cases hready
  have hunhealthy (h : d.system.temperature.health ≠ .Ok) :
      d.system.dependencyHealthy = false := by
    simpa [System.dependencyHealthy] using h
  refine ⟨fun _ h => hsafe.off (hunhealthy h) henabled, fun _ h => hsafe.on (hunhealthy h) henabled,
    fun h hpolicy => hsettled.disarmed ?_, fun h => hsettled.armed ?_⟩
  · simp [System.eligible, System.dependencySuspends, hunhealthy h, hpolicy]
  · simp [System.eligible, System.dependencySuspends, System.dependencyHealthy, h, henabled]

/-- In every run no step of which swallows a request while the output is not where
the policy wants it, every quiescent state with an enabled rule is safe. -/
theorem failSafe_run (machines : Machines RuntimeState RuntimeEvent) (hmachines : machines.Takes)
    (lib : NumberLibrary α) (raw : String) (revision : ℕ) (labels : List (Label α))
    (hlabels : Throughout (step machines lib) (fun d label => ¬SwallowsUnsafe lib d label)
      (setup machines lib raw revision) labels) :
    let s := (run (step machines lib) (setup machines lib raw revision) labels).system
    Quiescent s → s.runtime.started = true → s.engine.isEnabled = true → FailSafe s := by
  intro s hquiescent _ henabled
  have hs : Guarded (run (step machines lib) (setup machines lib raw revision) labels) :=
    run_invariant_of_throughout (I := Guarded)
      (fun _ label hs hlabel => step_guarded hmachines hs label hlabel)
      (setup_guarded hmachines raw revision) hlabels
  exact failSafe_of_quiescent hs hquiescent henabled

/-- The heater goes on, the task is disabled, and then the input fails. -/
def faultLabels : List (Label ℕ) :=
  [.loop quiet, .loop quiet, .loop quiet, .setValue (.finite 10), .loop quiet, .loop quiet,
    .loop quiet, .loop quiet, .injectFault "open", .loop quiet, .loop quiet, .loop quiet]

/-- A fault that is followed by a fail-safe output. -/
theorem failSafe_sample :
    FailSafe (run (step sampleMachines sampleLibrary)
      (setup sampleMachines sampleLibrary sampleConfiguration 1) faultLabels).system := by
  have hlabels : Throughout (step sampleMachines sampleLibrary)
      (fun d label => ¬SwallowsUnsafe sampleLibrary d label)
      (setup sampleMachines sampleLibrary sampleConfiguration 1) faultLabels := by
    decide +kernel
  have hreached : let s := (run (step sampleMachines sampleLibrary)
        (setup sampleMachines sampleLibrary sampleConfiguration 1) faultLabels).system
      s.events.pending = [] ∧ s.runtime.evaluationTask.ready = false ∧
        s.runtime.started = true ∧ s.engine.isEnabled = true := by
    decide +kernel
  obtain ⟨hevents, htask, hstarted, henabled⟩ := hreached
  exact failSafe_run sampleMachines sampleMachines_takes sampleLibrary sampleConfiguration 1
    faultLabels hlabels ⟨hevents, htask⟩ hstarted henabled

/-- The input fails between the pass that turned the heater on and the next one:
the heater stays on. -/
theorem failSafe_spent :
    ¬ ∀ (machines : Machines RuntimeState RuntimeEvent), machines.Takes →
      ∀ (lib : NumberLibrary ℕ) (raw : String) (revision : ℕ) (labels : List (Label ℕ)),
        let s := (run (step machines lib) (setup machines lib raw revision) labels).system
        Quiescent s → s.runtime.started = true → s.engine.isEnabled = true → FailSafe s := by
  intro h
  let labels : List (Label ℕ) := [.loop quiet, .loop quiet, .loop quiet, .setValue (.finite 10),
    .loop quiet, .loop quiet, .injectFault "open", .loop quiet, .loop quiet]
  let s := (run (step sampleMachines sampleLibrary)
    (setup sampleMachines sampleLibrary sampleConfiguration 1) labels).system
  have hrun : s.events.pending = [] ∧ s.runtime.evaluationTask.ready = false ∧
      s.runtime.started = true ∧ s.engine.isEnabled = true ∧ s.heater.isEnabled = true ∧
      s.temperature.health ≠ .Ok ∧ s.runtime.faultPolicy = .SafeOff ∧ s.heater.isOn = true := by
    decide +kernel
  obtain ⟨hevents, htask, hstarted, henabled, hheater, hfault, hpolicy, hon⟩ := hrun
  have hoff := (h sampleMachines sampleMachines_takes sampleLibrary sampleConfiguration 1 labels
    ⟨hevents, htask⟩ hstarted henabled).safeOff hheater hfault hpolicy
  exact absurd (hon.symm.trans hoff) (by decide)

end ProjEsp32.FaultSafety
