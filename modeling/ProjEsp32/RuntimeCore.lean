import ProjEsp32.ArduinoText
import ProjEsp32.RingBuffer

/-!
# The runtime core

The event bus, a bounded queue that drops what is posted to it when it is full,
and the health of a component, whose changes are posted to the bus. Handlers are
named by the functions that subscribe.
-/

namespace ProjEsp32.RuntimeCore

open ArduinoText RingBuffer

variable {H σ : Type}

/-- The events that the queue holds. -/
def QUEUE_SIZE : ℕ := 24

/-- The handlers that the bus holds. -/
def MAX_HANDLERS : ℕ := 12

/-- Bytes of the source of an event, with the zero byte at its end. -/
def SOURCE_SIZE : ℕ := 24

/-- The queue holds an event at least. -/
theorem QUEUE_SIZE_pos : 0 < QUEUE_SIZE := by decide

/-- The types of the events. -/
inductive RuntimeEventType where
  | ComponentStateChanged
  | ComponentHealthChanged
  | SupervisorStateChanged
  | InputValueChanged
  | RuleEvaluated
  deriving DecidableEq

/-- An event, without the time and the value that only the log prints. -/
structure Event where
  /-- The type of the event. -/
  type : RuntimeEventType
  /-- Who posted it. -/
  source : String
  deriving DecidableEq

/-- An event as it is copied into the queue: `snprintf` cuts its source. -/
def Event.copied (type : RuntimeEventType) (source : String) : Event where
  type := type
  source := String.ofList ((cString source).toList.take (SOURCE_SIZE - 1))

/-- The bus and its subscribers. -/
structure EventBus (H : Type) where
  /-- The events that wait. -/
  queue : Ring Event QUEUE_SIZE := .empty QUEUE_SIZE_pos ⟨.ComponentStateChanged, ""⟩
  /-- The handlers, in the order of their subscriptions. -/
  handlers : List H := []
  /-- The posts for which there was no room. -/
  dropped : ℕ := 0

namespace EventBus

variable {bus : EventBus H} {e : Event} {type : RuntimeEventType} {source : String}

/-- The events that wait, oldest first. -/
def pending (bus : EventBus H) : List Event := bus.queue.contents

/-- `subscribe`: twice is once, and there is room for a few handlers. -/
def subscribe [DecidableEq H] (handler : H) (bus : EventBus H) : EventBus H × Bool :=
  if MAX_HANDLERS ≤ bus.handlers.length then (bus, false)
  else if handler ∈ bus.handlers then (bus, true)
  else ({ bus with handlers := bus.handlers ++ [handler] }, true)

/-- `post`, whose answer no caller looks at. -/
def post (type : RuntimeEventType) (source : String) (bus : EventBus H) : EventBus H :=
  match bus.queue.push (.copied type source) with
  | none => { bus with dropped := bus.dropped + 1 }
  | some queue => { bus with queue }

/-- The oldest event, and the bus without it. -/
def pop (bus : EventBus H) : Option (Event × EventBus H) :=
  bus.queue.pop.map fun popped => (popped.1, { bus with queue := popped.2 })

/-- A post leaves the handlers. -/
@[simp] theorem post_handlers : (bus.post type source).handlers = bus.handlers := by
  unfold post
  cases bus.queue.push (.copied type source) with
  | none => rfl
  | some queue => rfl

/-- The queue never holds more than it has room for. -/
theorem length_pending_le (bus : EventBus H) : bus.pending.length ≤ QUEUE_SIZE := by
  rw [pending, Ring.length_contents]
  exact bus.queue.count_le

/-- A post is taken last when there is room, and not at all otherwise. -/
theorem post_pending (type : RuntimeEventType) (source : String) (bus : EventBus H) :
    (bus.post type source).pending =
      if bus.pending.length < QUEUE_SIZE then bus.pending ++ [.copied type source]
      else bus.pending := by
  have hlength : bus.pending.length = bus.queue.count := Ring.length_contents _
  rw [hlength, post]
  cases hpush : bus.queue.push (.copied type source) with
  | none =>
    rw [if_neg (by rw [Ring.push_eq_none.mp hpush]; exact Nat.lt_irrefl _)]
    rfl
  | some queue =>
    have hroom : bus.queue.count < QUEUE_SIZE := by
      have hsome : bus.queue.count ≠ QUEUE_SIZE := by
        intro hfull
        rw [Ring.push_eq_none.mpr hfull] at hpush
        cases hpush
      have := bus.queue.count_le
      omega
    rw [if_pos hroom]
    exact Ring.contents_push hpush

/-- What waits goes on waiting. -/
theorem mem_post (h : e ∈ bus.pending) : e ∈ (bus.post type source).pending := by
  rw [post_pending]
  split
  · exact List.mem_append_left _ h
  · exact h

/-- A post with room is among the events that wait. -/
theorem copied_mem_post (h : bus.pending.length < QUEUE_SIZE) :
    .copied type source ∈ (bus.post type source).pending := by
  rw [post_pending, if_pos h]
  exact List.mem_append_right _ (List.mem_singleton.mpr rfl)

/-- A post adds its own event or nothing. -/
theorem mem_of_mem_post (h : e ∈ (bus.post type source).pending) :
    e ∈ bus.pending ∨ e = .copied type source := by
  rw [post_pending] at h
  split at h
  · rw [List.mem_append, List.mem_singleton] at h
    exact h
  · exact .inl h

/-- A post adds one event at most. -/
theorem length_post_le (type : RuntimeEventType) (source : String) (bus : EventBus H) :
    (bus.post type source).pending.length ≤ bus.pending.length + 1 := by
  rw [post_pending]
  split
  · exact Nat.le_of_eq (by rw [List.length_append, List.length_singleton])
  · exact Nat.le_succ _

/-- The oldest event is popped first. -/
theorem pending_of_pop {rest : EventBus H} (h : bus.pop = some (e, rest)) :
    bus.pending = e::rest.pending ∧ rest.handlers = bus.handlers := by
  unfold pop at h
  obtain ⟨popped, hpop, heq⟩ := Option.map_eq_some_iff.mp h
  cases heq
  exact ⟨Ring.contents_pop hpop, rfl⟩

/-- Only an empty queue has nothing to pop. -/
theorem pop_eq_none : bus.pop = none ↔ bus.pending = [] := by
  rw [pop, Option.map_eq_none_iff]
  exact Ring.pop_eq_none

end EventBus

/-- The health of a component. -/
inductive HealthState where
  | Ok
  | Degraded
  | Fault
  | Recovering
  | Disabled
  deriving DecidableEq

/-- The health of a component, without its times and its error count. -/
structure ComponentHealth where
  /-- The health itself. -/
  state : HealthState := .Disabled
  /-- The text that tells the fault. -/
  faultCode : String := ""
  deriving DecidableEq

/-- What the components share: a state and a health. -/
structure Component (σ : Type) where
  /-- The state of the component's own kind. -/
  state : σ
  /-- Its health. -/
  health : ComponentHealth := {}
  deriving DecidableEq

/-- `transitionTo` of every component: a change of the state and a change of the
health are posted, in this order. -/
def transitionTo [DecidableEq σ] (id : String) (nextState : σ) (nextHealth : HealthState)
    (faultCode : String) (component : Component σ) (bus : EventBus H) :
    Component σ × EventBus H :=
  let nextFault := cString faultCode
  let bus := if nextState ≠ component.state then bus.post .ComponentStateChanged id else bus
  let bus :=
    if nextHealth ≠ component.health.state ∨ nextFault ≠ component.health.faultCode then
      bus.post .ComponentHealthChanged id
    else bus
  ({ state := nextState, health := { state := nextHealth, faultCode := nextFault } }, bus)

variable [DecidableEq σ] {id : String} {nextState : σ} {nextHealth : HealthState}
variable {faultCode : String} {component : Component σ} {bus : EventBus H}

/-- A transition leaves the handlers. -/
@[simp] theorem transitionTo_handlers :
    (transitionTo id nextState nextHealth faultCode component bus).2.handlers = bus.handlers := by
  unfold transitionTo
  dsimp only
  split <;> split <;> simp

/-- What waits goes on waiting when a component changes. -/
theorem mem_transitionTo {e : Event} (h : e ∈ bus.pending) :
    e ∈ (transitionTo id nextState nextHealth faultCode component bus).2.pending := by
  unfold transitionTo
  dsimp only
  split <;> split
  · exact EventBus.mem_post (EventBus.mem_post h)
  · exact EventBus.mem_post h
  · exact EventBus.mem_post h
  · exact h

/-- A change of the health waits in the queue when there is room for two. -/
theorem health_mem_transitionTo (hroom : bus.pending.length + 1 < QUEUE_SIZE)
    (hchanged : nextHealth ≠ component.health.state ∨
      cString faultCode ≠ component.health.faultCode) :
    .copied .ComponentHealthChanged id ∈
      (transitionTo id nextState nextHealth faultCode component bus).2.pending := by
  unfold transitionTo
  dsimp only
  rw [if_pos hchanged]
  refine EventBus.copied_mem_post ?_
  split
  · have hpost := EventBus.length_post_le .ComponentStateChanged id bus
    omega
  · omega

/-- A component that changes neither its state nor its health posts nothing. -/
theorem transitionTo_unchanged (hstate : nextState = component.state)
    (hhealth : nextHealth = component.health.state)
    (hfault : cString faultCode = component.health.faultCode) :
    transitionTo id nextState nextHealth faultCode component bus = (component, bus) := by
  subst hstate hhealth
  simp [transitionTo, hfault]

/-- A component that keeps its health posts one event at most, of its state. -/
theorem pending_transitionTo_same (id : String) (nextState : σ) (nextHealth : HealthState)
    (faultCode : String) (component : Component σ) (bus : EventBus H)
    (hhealth : nextHealth = component.health.state)
    (hfault : cString faultCode = component.health.faultCode) :
    (transitionTo id nextState nextHealth faultCode component bus).2.pending.length ≤
        bus.pending.length + 1 ∧
      ∀ e ∈ (transitionTo id nextState nextHealth faultCode component bus).2.pending,
        e ∈ bus.pending ∨ e = .copied .ComponentStateChanged id := by
  unfold transitionTo
  dsimp only
  rw [if_neg (by simp [hhealth, hfault])]
  split
  · exact ⟨EventBus.length_post_le _ _ _, fun e h => EventBus.mem_of_mem_post h⟩
  · exact ⟨Nat.le_succ _, fun e h => .inl h⟩

end ProjEsp32.RuntimeCore
