import Mathlib.Data.List.Nodup
import ProjEsp32.RuntimeCore
import ProjEsp32.TransitionRuns

/-!
# Dispatch of events

The event bus with all that an event carries, and with handlers that post and
subscribe while an event is being dispatched to them. Whatever they do, the bus is
a bounded queue: what is delivered is what was accepted, in order and once.
-/

namespace ProjEsp32.EventDispatch

open ArduinoText RingBuffer TransitionRuns
open RuntimeCore (QUEUE_SIZE QUEUE_SIZE_pos MAX_HANDLERS SOURCE_SIZE)

variable {H S : Type}

/-- An event as the queue holds it. -/
structure Event where
  /-- The number of its type. -/
  type : ℕ := 0
  /-- When it was posted. -/
  atMs : ℕ := 0
  /-- The value that it brings. -/
  value : ℤ := 0
  /-- Who posted it. -/
  source : String := ""
  deriving DecidableEq

/-- What `post` is called with, and `millis()` at the call; a null source is none. -/
structure Post where
  /-- The number of the type. -/
  type : ℕ
  /-- The source; none is a null pointer. -/
  source : Option String
  /-- The value. -/
  value : ℤ := 0
  /-- The time. -/
  atMs : ℕ := 0
  deriving DecidableEq

/-- The event that a post writes into the queue: `snprintf` cuts its source. -/
def Post.event (p : Post) : Event where
  type := p.type
  atMs := p.atMs
  value := p.value
  source := String.ofList ((cString (p.source.getD "")).toList.take (SOURCE_SIZE - 1))

/-- The bus and its subscribers. -/
structure EventBus (H : Type) where
  /-- The events that wait. -/
  queue : Ring Event QUEUE_SIZE := .empty QUEUE_SIZE_pos {}
  /-- The handlers, in the order of their subscriptions. -/
  handlers : List H := []
  /-- The posts for which there was no room, in 32 bits. -/
  dropped : ℕ := 0

namespace EventBus

/-- The events that wait, oldest first. -/
def pending (bus : EventBus H) : List Event := bus.queue.contents

/-- `subscribe`, with a null handler or none. -/
def subscribe [DecidableEq H] (handler : Option H) (bus : EventBus H) : EventBus H × Bool :=
  match handler with
  | none => (bus, false)
  | some handler =>
    if MAX_HANDLERS ≤ bus.handlers.length then (bus, false)
    else if handler ∈ bus.handlers then (bus, true)
    else ({ bus with handlers := bus.handlers ++ [handler] }, true)

/-- `post`. -/
def post (p : Post) (bus : EventBus H) : EventBus H × Bool :=
  match bus.queue.push p.event with
  | none => ({ bus with dropped := (bus.dropped + 1) % 2^32 }, false)
  | some queue => ({ bus with queue }, true)

/-- The oldest event, and the bus without it. -/
def pop (bus : EventBus H) : Option (Event × EventBus H) :=
  bus.queue.pop.map fun popped => (popped.1, { bus with queue := popped.2 })

end EventBus

/-- What a handler does with an event: it posts and subscribes, each time with the
answer at hand for what it does next, and leaves the rest of the device in a state. -/
inductive Handling (H S : Type) where
  | done (state : S)
  | post (p : Post) (next : Bool → Handling H S)
  | subscribe (handler : Option H) (next : Bool → Handling H S)

/-- An event, the handlers that it was handed to in turn, and those that were
registered when that was over. -/
structure Delivery (H : Type) where
  /-- The event that was dispatched. -/
  event : Event
  /-- The handlers that it was handed to, in order. -/
  handed : List H
  /-- Those that were registered when it had been. -/
  registered : List H

/-- The bus, and the rest of the device. -/
structure World (H S : Type) where
  /-- The bus. -/
  bus : EventBus H := {}
  /-- What the handlers leave in the rest of the device. -/
  state : S
  /-- The events of the posts that returned true; nothing reads them. -/
  accepted : List Event := []
  /-- The handlers of the subscriptions that returned true; nothing reads them. -/
  subscribed : List H := []
  /-- The events that were dispatched; nothing reads them. -/
  deliveries : List (Delivery H) := []

namespace World

/-- A post, by whomever. -/
def post (p : Post) (w : World H S) : World H S × Bool :=
  let posted := w.bus.post p
  ({ w with
      bus := posted.1
      accepted := if posted.2 then w.accepted ++ [p.event] else w.accepted }, posted.2)

variable [DecidableEq H]

/-- A subscription, by whomever. -/
def subscribe (handler : Option H) (w : World H S) : World H S × Bool :=
  let subscribed := w.bus.subscribe handler
  ({ w with
      bus := subscribed.1
      subscribed := if subscribed.2 then w.subscribed ++ handler.toList else w.subscribed },
    subscribed.2)

/-- A handler runs. -/
def handle : Handling H S → World H S → World H S
  | .done state, w => { w with state }
  | .post p next, w => handle (next (w.post p).2) (w.post p).1
  | .subscribe handler next, w => handle (next (w.subscribe handler).2) (w.subscribe handler).1

/-- The inner loop of `process`, from an index on: the handlers that the event is
handed to. Their number is read again at each turn; the array ends it. -/
def dispatch (respond : H → Event → S → Handling H S) (event : Event) :
    (turns index : ℕ) → World H S → World H S × List H
  | 0, _, w => (w, [])
  | turns + 1, index, w =>
    match w.bus.handlers[index]? with
    | none => (w, [])
    | some handler =>
      let rest := dispatch respond event turns (index + 1)
        (w.handle (respond handler event w.state))
      (rest.1, handler::rest.2)

/-- A turn of the outer loop: the event that was popped is dispatched. -/
def deliver (respond : H → Event → S → Handling H S) (event : Event) (w : World H S) :
    World H S :=
  let dispatched := dispatch respond event MAX_HANDLERS 0 w
  { dispatched.1 with deliveries := dispatched.1.deliveries ++
      [⟨event, dispatched.2, dispatched.1.bus.handlers⟩] }

/-- `process`: the number of events that it has processed. -/
def process (respond : H → Event → S → Handling H S) : ℕ → World H S → World H S × ℕ
  | 0, w => (w, 0)
  | maxEvents + 1, w =>
    match w.bus.pop with
    | none => (w, 0)
    | some (event, bus) =>
      let rest := process respond maxEvents (deliver respond event { w with bus })
      (rest.1, rest.2 + 1)

end World

/-- A call of the bus by the rest of the device. -/
inductive Call (H : Type) where
  | subscribe (handler : Option H)
  | post (p : Post)
  | process (maxEvents : ℕ)

/-- One call. -/
def step [DecidableEq H] (respond : H → Event → S → Handling H S) (w : World H S) :
    Call H → World H S
  | .subscribe handler => (w.subscribe handler).1
  | .post p => (w.post p).1
  | .process maxEvents => (w.process respond maxEvents).1

/-! ### Posts and subscriptions -/

variable {bus : EventBus H} {w : World H S} {current : List Event}

/-- A post is refused by a full queue alone. -/
theorem post_eq_false {p : Post} : (bus.post p).2 = false ↔ bus.pending.length = QUEUE_SIZE := by
  rw [EventBus.pending, Ring.length_contents, ← @Ring.push_eq_none _ _ p.event]
  unfold EventBus.post
  cases bus.queue.push p.event with
  | none => simp
  | some queue => simp

/-- A refused post counts, and nothing else. -/
theorem post_of_refused {p : Post} (h : (bus.post p).2 = false) :
    (bus.post p).1 = { bus with dropped := (bus.dropped + 1) % 2^32 } := by
  unfold EventBus.post at h ⊢
  cases hpush : bus.queue.push p.event with
  | none => rfl
  | some queue =>
    rw [hpush] at h
    cases h

/-- An accepted post comes last. -/
theorem post_of_accepted {p : Post} (h : (bus.post p).2 = true) :
    (bus.post p).1.pending = bus.pending ++ [p.event] ∧
      (bus.post p).1.handlers = bus.handlers ∧ (bus.post p).1.dropped = bus.dropped := by
  unfold EventBus.post at h ⊢
  cases hpush : bus.queue.push p.event with
  | none =>
    rw [hpush] at h
    cases h
  | some queue => exact ⟨Ring.contents_push hpush, rfl, rfl⟩

/-- What is popped came first. -/
theorem pop_spec {event : Event} {rest : EventBus H} (h : bus.pop = some (event, rest)) :
    bus.pending = event::rest.pending ∧ rest.handlers = bus.handlers ∧
      rest.dropped = bus.dropped := by
  unfold EventBus.pop at h
  obtain ⟨popped, hpop, heq⟩ := Option.map_eq_some_iff.mp h
  cases heq
  exact ⟨Ring.contents_pop hpop, rfl, rfl⟩

/-- Only an empty queue has nothing to pop. -/
theorem pop_eq_none : bus.pop = none ↔ bus.pending = [] := by
  rw [EventBus.pop, Option.map_eq_none_iff]
  exact Ring.pop_eq_none

/-- The subscribers: each of them once, and not too many. -/
structure Registered (handlers : List H) : Prop where
  /-- There are no more handlers than there is room for. -/
  length_le : handlers.length ≤ MAX_HANDLERS
  /-- None of them is there twice. -/
  nodup : handlers.Nodup

variable [DecidableEq H]

/-- A subscription is refused for a null handler and by a full array. -/
theorem subscribe_eq_false {handler : Option H} :
    (bus.subscribe handler).2 = false ↔ handler = none ∨ MAX_HANDLERS ≤ bus.handlers.length := by
  unfold EventBus.subscribe
  cases handler with
  | none => simp
  | some handler =>
    dsimp only
    split_ifs with hfull hmember
    · simp [hfull]
    · simp [hfull]
    · simp [hfull]

/-- A refused subscription changes nothing. -/
theorem subscribe_of_refused {handler : Option H} (h : (bus.subscribe handler).2 = false) :
    (bus.subscribe handler).1 = bus := by
  unfold EventBus.subscribe at h ⊢
  cases handler with
  | none => rfl
  | some handler =>
    dsimp only at h ⊢
    split_ifs at h ⊢ with hfull
    rfl

/-- Among handlers, each where it comes first, one more is last or known already. -/
theorem eraseDups_concat (handlers : List H) (handler : H) :
    (handlers ++ [handler]).eraseDups =
      if handler ∈ handlers.eraseDups then handlers.eraseDups
      else handlers.eraseDups ++ [handler] := by
  rw [List.eraseDups_append]
  by_cases hmember : handler ∈ handlers
  · simp [List.removeAll, hmember]
  · simp [List.removeAll, hmember, List.eraseDups_cons]

/-- A subscription adds a handler at the end or leaves the handlers as they are. -/
theorem subscribe_spec (hbus : Registered bus.handlers) (handler : Option H) :
    Registered (bus.subscribe handler).1.handlers ∧
      bus.handlers <+: (bus.subscribe handler).1.handlers ∧
      (bus.subscribe handler).1.pending = bus.pending := by
  unfold EventBus.subscribe
  cases handler with
  | none => exact ⟨hbus, List.prefix_refl _, rfl⟩
  | some handler =>
    dsimp only
    by_cases hfull : MAX_HANDLERS ≤ bus.handlers.length
    · rw [if_pos hfull]
      exact ⟨hbus, List.prefix_refl _, rfl⟩
    · rw [if_neg hfull]
      by_cases hmember : handler ∈ bus.handlers
      · rw [if_pos hmember]
        exact ⟨hbus, List.prefix_refl _, rfl⟩
      · rw [if_neg hmember]
        refine ⟨⟨?_, ?_⟩, List.prefix_append _ _, rfl⟩
        · rw [List.length_append, List.length_singleton]
          omega
        · rw [List.nodup_append]
          refine ⟨hbus.nodup, List.nodup_singleton handler, ?_⟩
          intro a ha b hb
          rw [List.mem_singleton.mp hb]
          exact ne_of_mem_of_not_mem ha hmember

/-! ### Handlers -/

/-- The bus is a queue: what was accepted has been delivered, is being dispatched
or waits, in this order; the handlers are those whose subscriptions were accepted, each
where it came first; and every event was handed to every handler that was registered by
the end of it. -/
structure Queued (w : World H S) (current : List Event) : Prop where
  /-- What was accepted has been delivered, is being dispatched or waits. -/
  accepted : w.accepted = w.deliveries.map (·.event) ++ current ++ w.bus.pending
  /-- The handlers fit, and none is there twice. -/
  registered : Registered w.bus.handlers
  /-- They are those whose subscriptions returned true. -/
  subscribed : w.bus.handlers = w.subscribed.eraseDups
  /-- Each delivery went to every handler of its time, once. -/
  handed : ∀ d ∈ w.deliveries,
    d.handed = d.registered ∧ d.registered.Nodup ∧ d.registered <+: w.bus.handlers

/-- What a post, a subscription and a handler leave. -/
structure Handled (current : List Event) (w u : World H S) : Prop where
  /-- The queue is in order. -/
  queued : Queued u current
  /-- No handler is gone. -/
  handlers : w.bus.handlers <+: u.bus.handlers
  /-- Nothing is delivered meanwhile. -/
  deliveries : u.deliveries = w.deliveries

/-- What is handled by one call and the next is handled by both. -/
theorem Handled.trans {u v : World H S} (h : Handled current w u) (hnext : Handled current u v) :
    Handled current w v where
  queued := hnext.queued
  handlers := h.handlers.trans hnext.handlers
  deliveries := hnext.deliveries.trans h.deliveries

/-- What was handed stays so while handlers are added. -/
theorem handed_of_prefix (hw : Queued w current) {handlers : List H}
    (hhandlers : w.bus.handlers <+: handlers) :
    ∀ d ∈ w.deliveries,
      d.handed = d.registered ∧ d.registered.Nodup ∧ d.registered <+: handlers := by
  intro d hd
  obtain ⟨hhanded, hnodup, hprefix⟩ := hw.handed d hd
  exact ⟨hhanded, hnodup, hprefix.trans hhandlers⟩

/-- A post hands nothing to a handler. -/
theorem post_handled (hw : Queued w current) (p : Post) : Handled current w (w.post p).1 := by
  unfold World.post
  dsimp only
  cases hposted : (w.bus.post p).2 with
  | false =>
    rw [post_of_refused hposted]
    exact ⟨⟨hw.accepted, hw.registered, hw.subscribed, hw.handed⟩, List.prefix_refl _, rfl⟩
  | true =>
    obtain ⟨hpending, hhandlers, -⟩ := post_of_accepted hposted
    have hprefix : w.bus.handlers <+: (w.bus.post p).1.handlers :=
      hhandlers ▸ List.prefix_refl _
    refine ⟨⟨?_, ?_, hhandlers.trans hw.subscribed, handed_of_prefix hw hprefix⟩, hprefix, rfl⟩
    · rw [if_pos rfl, hpending, hw.accepted, List.append_assoc]
    · rw [hhandlers]
      exact hw.registered

/-- The handlers after a subscription are those whose subscriptions were accepted. -/
theorem subscribe_subscribed (hw : Queued w current) (handler : Option H) :
    (w.subscribe handler).1.bus.handlers = (w.subscribe handler).1.subscribed.eraseDups := by
  unfold World.subscribe EventBus.subscribe
  cases handler with
  | none => exact hw.subscribed
  | some handler =>
    dsimp only
    by_cases hfull : MAX_HANDLERS ≤ w.bus.handlers.length
    · rw [if_pos hfull]
      exact hw.subscribed
    · rw [if_neg hfull]
      by_cases hmember : handler ∈ w.bus.handlers
      · rw [if_pos hmember]
        change w.bus.handlers = (w.subscribed ++ [handler]).eraseDups
        rw [eraseDups_concat, ← hw.subscribed, if_pos hmember]
      · rw [if_neg hmember]
        change w.bus.handlers ++ [handler] = (w.subscribed ++ [handler]).eraseDups
        rw [eraseDups_concat, ← hw.subscribed, if_neg hmember]

/-- A subscription hands nothing to a handler. -/
theorem subscribe_handled (hw : Queued w current) (handler : Option H) :
    Handled current w (w.subscribe handler).1 := by
  obtain ⟨hregistered, hprefix, hpending⟩ := subscribe_spec hw.registered handler
  refine ⟨⟨?_, hregistered, subscribe_subscribed hw handler, handed_of_prefix hw hprefix⟩,
    hprefix, rfl⟩
  rw [World.subscribe, hpending]
  exact hw.accepted

/-- Whatever a handler does, by induction on what it does. -/
theorem handle_handled (handling : Handling H S) (hw : Queued w current) :
    Handled current w (w.handle handling) := by
  induction handling generalizing w with
  | done state =>
    exact ⟨⟨hw.accepted, hw.registered, hw.subscribed, hw.handed⟩, List.prefix_refl _, rfl⟩
  | post p next ih =>
    have hposted := post_handled hw p
    exact hposted.trans (ih _ hposted.queued)
  | subscribe handler next ih =>
    have hsubscribed := subscribe_handled hw handler
    exact hsubscribed.trans (ih _ hsubscribed.queued)

variable (respond : H → Event → S → Handling H S)

/-- The loop hands the event to the handlers from its index on that are registered
when it ends. -/
theorem dispatch_spec (event : Event) (turns : ℕ) {index : ℕ}
    (hturns : MAX_HANDLERS ≤ index + turns)
    (hw : Queued w current) :
    let dispatched := w.dispatch respond event turns index
    Handled current w dispatched.1 ∧
      dispatched.2 = dispatched.1.bus.handlers.drop index := by
  induction turns generalizing index w with
  | zero =>
    have hlength := hw.registered.length_le
    refine ⟨⟨hw, List.prefix_refl _, rfl⟩, (List.drop_eq_nil_of_le ?_).symm⟩
    simp only [World.dispatch]
    omega
  | succ turns ih =>
    cases hhandler : w.bus.handlers[index]? with
    | none =>
      have hlength := List.getElem?_eq_none_iff.mp hhandler
      simp only [World.dispatch, hhandler]
      exact ⟨⟨hw, List.prefix_refl _, rfl⟩, (List.drop_eq_nil_of_le hlength).symm⟩
    | some handler =>
      have hhandled := handle_handled (respond handler event w.state) hw
      obtain ⟨hrest, hhanded⟩ := ih (by omega : MAX_HANDLERS ≤ index + 1 + turns) hhandled.queued
      have hdispatched := hhandled.trans hrest
      simp only [World.dispatch, hhandler]
      refine ⟨hdispatched, ?_⟩
      -- no handler goes away, so this one is still at its index
      obtain ⟨hindex, hget⟩ := List.getElem?_eq_some_iff.mp hhandler
      have hle := hdispatched.handlers.length_le
      rw [List.drop_eq_getElem_cons (Nat.lt_of_lt_of_le hindex hle),
        ← hdispatched.handlers.getElem hindex, hget, ← hhanded]

/-- An event that was popped is delivered, to every handler once. -/
theorem deliver_spec {event : Event} (hw : Queued w [event]) :
    Queued (w.deliver respond event) [] ∧
      (w.deliver respond event).deliveries.length = w.deliveries.length + 1 := by
  obtain ⟨hdispatched, hhanded⟩ :=
    dispatch_spec respond event MAX_HANDLERS (by omega : MAX_HANDLERS ≤ 0 + MAX_HANDLERS) hw
  rw [List.drop_zero] at hhanded
  refine ⟨⟨?_, hdispatched.queued.registered, hdispatched.queued.subscribed, ?_⟩, ?_⟩
  · simp only [World.deliver]
    rw [hdispatched.queued.accepted]
    simp
  · intro d hd
    rcases List.mem_append.mp hd with hold | hnew
    · exact hdispatched.queued.handed d hold
    · rw [List.mem_singleton.mp hnew]
      exact ⟨hhanded, hdispatched.queued.registered.nodup, List.prefix_refl _⟩
  · simp only [World.deliver]
    rw [List.length_append, List.length_singleton, hdispatched.deliveries]

/-- What `process` leaves: it delivers as many events as it says, no more than it
was asked for, and fewer only when none waits any more. -/
structure Processed (maxEvents : ℕ) (w : World H S) (result : World H S × ℕ) : Prop where
  /-- The queue is in order. -/
  queued : Queued result.1 []
  /-- The number that is returned is that of the deliveries. -/
  length : result.1.deliveries.length = w.deliveries.length + result.2
  /-- It is not more than was asked for. -/
  le : result.2 ≤ maxEvents
  /-- Less than that only when nothing waits any more. -/
  drained : result.2 < maxEvents → result.1.bus.pending = []

/-- The outer loop, by induction on the events that it may still process. -/
theorem process_spec (maxEvents : ℕ) (hw : Queued w []) :
    Processed maxEvents w (w.process respond maxEvents) := by
  induction maxEvents generalizing w with
  | zero => exact ⟨hw, rfl, Nat.le_refl 0, fun h => absurd h (Nat.lt_irrefl 0)⟩
  | succ maxEvents ih =>
    cases hpop : w.bus.pop with
    | none =>
      simp only [World.process, hpop]
      exact ⟨hw, rfl, Nat.zero_le _, fun _ => pop_eq_none.mp hpop⟩
    | some popped =>
      obtain ⟨event, bus⟩ := popped
      obtain ⟨hpending, hhandlers, -⟩ := pop_spec hpop
      have hpopped : Queued { w with bus } [event] := by
        refine ⟨?_, hhandlers ▸ hw.registered, hhandlers.trans hw.subscribed,
          handed_of_prefix hw (hhandlers ▸ List.prefix_refl _)⟩
        rw [hw.accepted, hpending]
        simp
      obtain ⟨hdelivered, hone⟩ := deliver_spec respond hpopped
      have hrest := ih hdelivered
      have hlength := hrest.length
      simp only [World.process, hpop]
      refine ⟨hrest.queued, ?_, Nat.succ_le_succ hrest.le, ?_⟩
      · dsimp only at hone ⊢
        omega
      · intro hlt
        exact hrest.drained (Nat.lt_of_succ_lt_succ hlt)

/-- The step lemma: every call keeps the queue. -/
theorem step_queued (hw : Queued w []) (call : Call H) : Queued (step respond w call) [] := by
  cases call with
  | subscribe handler => exact (subscribe_handled hw handler).queued
  | post p => exact (post_handled hw p).queued
  | process maxEvents => exact (process_spec respond maxEvents hw).queued

/-- A bus to which nothing was posted yet. -/
theorem queued_initial (state : S) : Queued ({ state } : World H S) [] where
  accepted := rfl
  registered := ⟨Nat.zero_le _, List.nodup_nil⟩
  subscribed := rfl
  handed := fun d h => by cases h

/-- The bus is a bounded queue. In every run of subscriptions, posts and processing,
with handlers that do the same while an event is dispatched to them: what is
delivered, and then what waits, is what was accepted, in order and once; the handlers
are those whose subscriptions were accepted, each once and where it came first; every
event was handed to the handlers that were registered by the end of its dispatch, each
once and in order; the indices agree. A post and a subscription are refused by a full
queue, and by a full array or for a null handler, alone, wherever they are made, and then
the post only counts and the subscription does nothing. `process` ends after the events
that it was asked for, and before that only when none waits. -/
theorem bus_run (respond : H → Event → S → Handling H S) (state : S) (calls : List (Call H)) :
    let w := run (step respond) { state } calls
    w.accepted = w.deliveries.map (·.event) ++ w.bus.pending ∧
    (∀ d ∈ w.deliveries,
      d.handed = d.registered ∧ d.registered.Nodup ∧ d.registered <+: w.bus.handlers) ∧
    (w.bus.handlers.Nodup ∧ w.bus.handlers = w.subscribed.eraseDups) ∧
    (w.bus.queue.head < QUEUE_SIZE ∧ w.bus.queue.tail < QUEUE_SIZE ∧
      w.bus.queue.count ≤ QUEUE_SIZE ∧
      w.bus.queue.tail = (w.bus.queue.head + w.bus.queue.count) % QUEUE_SIZE) ∧
    (∀ (u : World H S) p, ((u.post p).2 = false ↔ u.bus.pending.length = QUEUE_SIZE) ∧
      ((u.post p).2 = false →
        (u.post p).1 = { u with bus.dropped := (u.bus.dropped + 1) % 2^32 }) ∧
      ((u.post p).2 = true → (u.post p).1.bus.pending = u.bus.pending ++ [p.event] ∧
        (u.post p).1.accepted = u.accepted ++ [p.event])) ∧
    (∀ (u : World H S) handler,
      ((u.subscribe handler).2 = false ↔
        handler = none ∨ MAX_HANDLERS ≤ u.bus.handlers.length) ∧
      ((u.subscribe handler).2 = false → (u.subscribe handler).1 = u) ∧
      ((u.subscribe handler).2 = true →
        (u.subscribe handler).1.subscribed = u.subscribed ++ handler.toList)) ∧
    ∀ maxEvents, (w.process respond maxEvents).2 ≤ maxEvents ∧
      (w.process respond maxEvents).1.deliveries.length =
        w.deliveries.length + (w.process respond maxEvents).2 ∧
      ((w.process respond maxEvents).2 < maxEvents →
        (w.process respond maxEvents).1.bus.pending = []) := by
  intro w
  have hw : Queued w [] := run_invariant (I := fun w => Queued w [])
    (fun _ call h => step_queued respond h call) (queued_initial state) calls
  have htail : w.bus.queue.tail < QUEUE_SIZE := by
    rw [w.bus.queue.tail_eq]
    exact Nat.mod_lt _ (by decide)
  refine ⟨?_, hw.handed, ⟨hw.registered.nodup, hw.subscribed⟩,
    ⟨w.bus.queue.head_lt, htail, w.bus.queue.count_le, w.bus.queue.tail_eq⟩, ?_, ?_, ?_⟩
  · have haccepted := hw.accepted
    rwa [List.append_nil] at haccepted
  · intro u p
    refine ⟨post_eq_false, fun hrefused => ?_, fun haccepted => ⟨?_, if_pos haccepted⟩⟩
    · have hbus := post_of_refused hrefused
      simp only [World.post] at hrefused ⊢
      rw [hbus, hrefused]
      rfl
    · exact (post_of_accepted haccepted).1
  · intro u handler
    refine ⟨subscribe_eq_false, fun hrefused => ?_, fun haccepted => if_pos haccepted⟩
    have hbus := subscribe_of_refused hrefused
    simp only [World.subscribe] at hrefused ⊢
    rw [hbus, hrefused]
    rfl
  · intro maxEvents
    have hprocessed := process_spec respond maxEvents hw
    exact ⟨hprocessed.le, hprocessed.length, hprocessed.drained⟩

/-- A handler that posts again for every event keeps a call busy no longer than the
call was asked for. -/
example :
    let respond (_ : Bool) (event : Event) (_ : Unit) : Handling Bool Unit :=
      .post { type := event.type + 1, source := none } fun _ => .done ()
    let w := run (step respond) { state := () }
      [.subscribe (some true), .subscribe (some false), .post { type := 100, source := none },
        .process 3]
    w.deliveries.map (·.event.type) = [100, 101, 101] ∧ w.bus.pending.length = 4 := by
  decide +kernel

/-! ### The bus of the rule system -/

/-- The numbers of the event types. -/
def typeCode : RuntimeCore.RuntimeEventType → ℕ
  | .ComponentStateChanged => 100
  | .ComponentHealthChanged => 101
  | .SupervisorStateChanged => 102
  | .InputValueChanged => 200
  | .RuleEvaluated => 201

/-- The bus that the rule system is wired to is this one, without times and values
and with a drop counter that does not wrap. -/
structure Forgets (bus : EventBus H) (core : RuntimeCore.EventBus H) : Prop where
  /-- The same events wait. -/
  pending : bus.pending.map (fun e => (e.type, e.source)) =
    core.pending.map fun e => (typeCode e.type, e.source)
  /-- The same handlers are registered. -/
  handlers : bus.handlers = core.handlers
  /-- As many posts were dropped, but for the wrap. -/
  dropped : bus.dropped = core.dropped % 2^32

omit [DecidableEq H] in
/-- The two buses go on together over a post. -/
theorem Forgets.post {core : RuntimeCore.EventBus H} (h : Forgets bus core)
    (type : RuntimeCore.RuntimeEventType) (source : String) (value : ℤ) (atMs : ℕ) :
    Forgets (bus.post ⟨typeCode type, some source, value, atMs⟩).1 (core.post type source) := by
  have hlength : bus.pending.length = core.queue.count := by
    have hpending := congrArg List.length h.pending
    rw [List.length_map, List.length_map, RuntimeCore.EventBus.pending, Ring.length_contents]
      at hpending
    exact hpending
  unfold RuntimeCore.EventBus.post
  cases hpush : core.queue.push (.copied type source) with
  | none =>
    have hrefused : (bus.post ⟨typeCode type, some source, value, atMs⟩).2 = false := by
      rw [post_eq_false, hlength, Ring.push_eq_none.mp hpush]
    rw [post_of_refused hrefused]
    refine ⟨h.pending, h.handlers, ?_⟩
    dsimp only
    rw [h.dropped, Nat.mod_add_mod]
  | some queue =>
    have haccepted : (bus.post ⟨typeCode type, some source, value, atMs⟩).2 = true := by
      rw [← Bool.not_eq_false, post_eq_false, hlength, ← Ring.push_eq_none]
      rw [hpush]
      simp
    obtain ⟨hpending, hhandlers, hdropped⟩ := post_of_accepted haccepted
    refine ⟨?_, hhandlers.trans h.handlers, hdropped.trans h.dropped⟩
    rw [hpending, RuntimeCore.EventBus.pending, Ring.contents_push hpush, List.map_append,
      List.map_append, h.pending]
    rfl

/-- And over a subscription, with the same answer. -/
theorem Forgets.subscribe {core : RuntimeCore.EventBus H} (h : Forgets bus core) (handler : H) :
    (bus.subscribe (some handler)).2 = (core.subscribe handler).2 ∧
      Forgets (bus.subscribe (some handler)).1 (core.subscribe handler).1 := by
  unfold EventBus.subscribe RuntimeCore.EventBus.subscribe
  dsimp only
  rw [h.handlers]
  split
  · exact ⟨rfl, h⟩
  · split
    · exact ⟨rfl, h⟩
    · exact ⟨rfl, h.pending, rfl, h.dropped⟩

omit [DecidableEq H] in
/-- And both pop the same event, or none. -/
theorem Forgets.pop {core : RuntimeCore.EventBus H} (h : Forgets bus core) :
    match bus.pop, core.pop with
    | none, none => True
    | some (event, rest), some (coreEvent, coreRest) =>
      event.type = typeCode coreEvent.type ∧ event.source = coreEvent.source ∧
        Forgets rest coreRest
    | _, _ => False := by
  have hpending := h.pending
  cases hpop : bus.pop with
  | none =>
    rw [pop_eq_none.mp hpop] at hpending
    have hempty : core.pending = [] := List.map_eq_nil_iff.mp hpending.symm
    rw [RuntimeCore.EventBus.pop_eq_none.mpr hempty]
    trivial
  | some popped =>
    obtain ⟨event, rest⟩ := popped
    obtain ⟨hfirst, hhandlers, hdropped⟩ := pop_spec hpop
    cases hcore : core.pop with
    | none =>
      rw [hfirst, RuntimeCore.EventBus.pop_eq_none.mp hcore] at hpending
      cases hpending
    | some corePopped =>
      obtain ⟨coreEvent, coreRest⟩ := corePopped
      obtain ⟨hcoreFirst, hcoreHandlers⟩ := RuntimeCore.EventBus.pending_of_pop hcore
      rw [hfirst, hcoreFirst, List.map_cons, List.map_cons] at hpending
      obtain ⟨hevent, hrest⟩ := List.cons.inj hpending
      obtain ⟨htype, hsource⟩ := Prod.mk.inj hevent
      refine ⟨htype, hsource, hrest, ?_, ?_⟩
      · rw [hhandlers, hcoreHandlers, h.handlers]
      · have hcoreDropped : coreRest.dropped = core.dropped := by
          unfold RuntimeCore.EventBus.pop at hcore
          obtain ⟨_, _, heq⟩ := Option.map_eq_some_iff.mp hcore
          cases heq
          rfl
        rw [hdropped, hcoreDropped, h.dropped]

end ProjEsp32.EventDispatch
