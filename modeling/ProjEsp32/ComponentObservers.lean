import ProjEsp32.ComponentChanges

/-!
# What the subscribers learn

The bus drops posts when its queue is full, and counts them. As long as it has dropped
none, what it delivers and what waits are all the changes, and once nothing waits the
last value delivered of each subject is the current one.
-/

namespace ProjEsp32.ComponentReports

open ArduinoText ChangeNotification EventDispatch HealthSupervisor MachineEntries TransitionRuns
open RuntimeCore (HealthState MAX_HANDLERS SOURCE_SIZE)

variable {H S : Type}

/-- The values of the events about a subject. -/
def observed (subject : Subject) (events : List Event) : List ℤ :=
  (events.filter fun event => event.type = subject.type ∧ event.source = subject.source).map
    (·.value)

/-- The handlers of a delivery react, in turn. -/
def reacting (react : H → Event → S → S) (state : S) (d : Delivery H) : S :=
  d.handed.foldl (fun s h => react h d.event s) state

/-! ### The bus -/

variable [DecidableEq H]

/-- What a call does to the bus and the rest of the device: it accepts some of the
posts, counts the others, and the handlers react to what it delivers. -/
structure Carried (react : H → Event → S → S) (w u : World H S) (posts : List Post) : Prop where
  /-- The queue is in order before the call and after it. -/
  queued : Queued w [] → Queued u []
  /-- The posts that are taken are new in the queue, in their order. -/
  taken : ∃ taken : List Event, taken.Sublist (posts.map Post.event) ∧
    u.accepted = w.accepted ++ taken ∧ ∀ lost, w.bus.dropped = lost % 2^32 →
      u.bus.dropped = (lost + (posts.length - taken.length)) % 2^32
  /-- The handlers react to the deliveries, one after the other. -/
  reacted : ∃ deliveries, u.deliveries = w.deliveries ++ deliveries ∧
    u.state = deliveries.foldl (reacting react) w.state

omit [DecidableEq H] in
/-- Nothing is posted, accepted or dropped. -/
theorem taken_nil {w u : World H S} (haccepted : u.accepted = w.accepted)
    (hdropped : u.bus.dropped = w.bus.dropped) :
    ∃ taken : List Event, taken.Sublist ([].map Post.event) ∧
      u.accepted = w.accepted ++ taken ∧ ∀ lost, w.bus.dropped = lost % 2^32 →
        u.bus.dropped = (lost + (([] : List Post).length - taken.length)) % 2^32 :=
  ⟨[], .slnil, haccepted.trans (List.append_nil _).symm, fun _ hlost => hdropped.trans hlost⟩

/-- One post is accepted, or counted. -/
theorem carried_post (react : H → Event → S → S) (post : Post) (w : World H S) :
    Carried react w (w.post post).1 [post] where
  queued := fun hw => (post_handled hw post).queued
  taken := by
    unfold World.post
    dsimp only
    cases hposted : (w.bus.post post).2 with
    | false =>
      refine ⟨[], List.nil_sublist _, (List.append_nil _).symm, fun lost hlost => ?_⟩
      rw [post_of_refused hposted, hlost]
      simp
    | true =>
      obtain ⟨-, -, hdropped⟩ := post_of_accepted hposted
      refine ⟨[post.event], List.Sublist.refl _, rfl, fun lost hlost => ?_⟩
      rw [hdropped, hlost]
      simp
  reacted := ⟨[], (List.append_nil _).symm, rfl⟩

/-- What is carried by one call and the next is carried by both. -/
theorem Carried.trans {react : H → Event → S → S} {w u v : World H S} {first second : List Post}
    (h : Carried react w u first) (hnext : Carried react u v second) :
    Carried react w v (first ++ second) where
  queued := fun hw => hnext.queued (h.queued hw)
  taken := by
    obtain ⟨taken, hsub, haccepted, hdropped⟩ := h.taken
    obtain ⟨taken', hsub', haccepted', hdropped'⟩ := hnext.taken
    refine ⟨taken ++ taken', ?_, ?_, fun lost hlost => ?_⟩
    · rw [List.map_append]
      exact hsub.append hsub'
    · rw [haccepted', haccepted, List.append_assoc]
    · have hle := hsub.length_le
      have hle' := hsub'.length_le
      rw [List.length_map] at hle hle'
      rw [hdropped' _ (hdropped lost hlost), List.length_append, List.length_append]
      congr 1
      omega
  reacted := by
    obtain ⟨deliveries, hdelivered, hstate⟩ := h.reacted
    obtain ⟨deliveries', hdelivered', hstate'⟩ := hnext.reacted
    refine ⟨deliveries ++ deliveries', ?_, ?_⟩
    · rw [hdelivered', hdelivered, List.append_assoc]
    · rw [hstate', hstate, List.foldl_append]

/-- The posts of a call, one after the other. -/
theorem carried_posts (react : H → Event → S → S) (posts : List Post) (w : World H S) :
    Carried react w (posts.foldl (fun w post => (w.post post).1) w) posts := by
  induction posts generalizing w with
  | nil => exact ⟨id, taken_nil rfl rfl, [], (List.append_nil _).symm, rfl⟩
  | cons post posts ih => exact (carried_post react post w).trans (ih (w.post post).1)

variable (react : H → Event → S → S)

/-- A subscription carries no post. -/
theorem carried_subscribe (handler : Option H) (w : World H S) :
    Carried react w (w.subscribe handler).1 [] := by
  have hdropped : (w.subscribe handler).1.bus.dropped = w.bus.dropped := by
    unfold World.subscribe EventBus.subscribe
    cases handler with
    | none => rfl
    | some handler =>
      dsimp only
      split
      · rfl
      · split <;> rfl
  exact ⟨fun hw => (subscribe_handled hw handler).queued, taken_nil rfl hdropped, [],
    (List.append_nil _).symm, rfl⟩

/-- The inner loop of `process`, with handlers that do not call the bus. -/
theorem dispatch_reacting (event : Event) (turns index : ℕ) (w : World H S) :
    let dispatched := w.dispatch (fun h e s => .done (react h e s)) event turns index
    dispatched.1.bus = w.bus ∧ dispatched.1.accepted = w.accepted ∧
      dispatched.1.deliveries = w.deliveries ∧
      dispatched.1.state = dispatched.2.foldl (fun s h => react h event s) w.state := by
  induction turns generalizing index w with
  | zero => exact ⟨rfl, rfl, rfl, rfl⟩
  | succ turns ih =>
    cases hhandler : w.bus.handlers[index]? with
    | none => simp only [World.dispatch, hhandler, List.foldl_nil, and_self]
    | some handler =>
      simp only [World.dispatch, hhandler]
      exact ih (index + 1) { w with state := react handler event w.state }

/-- A turn of the outer loop adds one delivery, to which its handlers react. -/
theorem deliver_reacting (event : Event) (w : World H S) :
    let delivered := w.deliver (fun h e s => .done (react h e s)) event
    delivered.bus = w.bus ∧ delivered.accepted = w.accepted ∧
      ∃ d : Delivery H, delivered.deliveries = w.deliveries ++ [d] ∧
        delivered.state = reacting react w.state d := by
  obtain ⟨hbus, haccepted, hdeliveries, hstate⟩ := dispatch_reacting react event MAX_HANDLERS 0 w
  exact ⟨hbus, haccepted, _, congrArg (· ++ _) hdeliveries, hstate⟩

/-- The outer loop. -/
theorem process_reacting (maxEvents : ℕ) (w : World H S) :
    let processed := (w.process (fun h e s => .done (react h e s)) maxEvents).1
    processed.accepted = w.accepted ∧ processed.bus.dropped = w.bus.dropped ∧
      ∃ deliveries, processed.deliveries = w.deliveries ++ deliveries ∧
        processed.state = deliveries.foldl (reacting react) w.state := by
  induction maxEvents generalizing w with
  | zero => exact ⟨rfl, rfl, [], (List.append_nil _).symm, rfl⟩
  | succ maxEvents ih =>
    cases hpop : w.bus.pop with
    | none =>
      simp only [World.process, hpop, true_and]
      exact ⟨[], (List.append_nil _).symm, rfl⟩
    | some popped =>
      obtain ⟨event, bus⟩ := popped
      obtain ⟨-, -, hpopped⟩ := pop_spec hpop
      obtain ⟨hbus, haccepted, d, hdelivered, hstate⟩ :=
        deliver_reacting react event { w with bus }
      obtain ⟨haccepted', hdropped', deliveries, hdelivered', hstate'⟩ :=
        ih (World.deliver (fun h e s => .done (react h e s)) event { w with bus })
      simp only [World.process, hpop]
      refine ⟨haccepted'.trans haccepted, hdropped'.trans ?_, d::deliveries, ?_, ?_⟩
      · exact (congrArg EventBus.dropped hbus).trans hpopped
      · rw [hdelivered', hdelivered, List.append_assoc, List.singleton_append]
      · rw [hstate', hstate, List.foldl_cons]

/-- Processing carries no post. -/
theorem carried_process (maxEvents : ℕ) (w : World H S) :
    Carried react w (w.process (fun h e s => .done (react h e s)) maxEvents).1 [] := by
  obtain ⟨haccepted, hdropped, hreacted⟩ := process_reacting react maxEvents w
  exact ⟨fun hw => (process_spec _ maxEvents hw).queued, taken_nil haccepted hdropped, hreacted⟩

/-! ### The platform -/

variable (machines : EntryMachines SupervisorState EventId)

/-- The step lemma: every call carries its posts. -/
theorem step_carried (p : Platform H S) (label : Label H) :
    ∃ posts, (step machines react p label).posts = p.posts ++ posts ∧
      Carried react p.world (step machines react p label).world posts := by
  cases label with
  | subscribe handler =>
    exact ⟨[], (List.append_nil _).symm, carried_subscribe react handler p.world⟩
  | process maxEvents =>
    exact ⟨[], (List.append_nil _).symm, carried_process react maxEvents p.world⟩
  | sample | setValue | injectFault | recover | disableInput | enable | disable | applyDesired
    | beginSupervisor | evaluate | ruleEvaluated =>
    exact ⟨_, rfl, carried_posts react _ p.world⟩

/-- The whole run carries its posts. -/
theorem run_carried (state : S) (labels : List (Label H)) :
    let p := run (step machines react) (boot state) labels
    Carried react ({ state } : World H S) p.world p.posts := by
  refine run_invariant (I := fun p : Platform H S => Carried react { state } p.world p.posts)
    (fun p label hp => ?_) ?_ labels
  · obtain ⟨posts, hposts, hcarried⟩ := step_carried react machines p label
    rw [hposts]
    exact hp.trans hcarried
  · exact carried_posts react [] { state }

/-- The ids are short enough for the bus. -/
theorem event_source {post : Post} {id : String} (hpost : post.source = some id)
    (hid : String.ofList ((cString id).toList.take (SOURCE_SIZE - 1)) = id) :
    post.event.source = id := by
  unfold Post.event
  rw [hpost]
  exact hid

/-- The identifier of a source fits into an event. -/
theorem source_id_short (source : Source) :
    String.ofList ((cString source.id).toList.take (SOURCE_SIZE - 1)) = source.id := by
  rcases source with _ | _ | o
  · decide
  · decide
  · cases o <;> decide

/-- The events of the posts say what the posts say. -/
theorem observed_events (subject : Subject) {posts : List Post}
    (hknown : ∀ post ∈ posts, Known post) :
    observed subject (posts.map Post.event) = reported subject.type subject.source posts := by
  have htype : subject.type ≠ RuleEvaluated := by
    cases subject <;> exact fun h => by cases h
  have hsame (post : Post) (hpost : post ∈ posts) :
      (post.event.type = subject.type ∧ post.event.source = subject.source) ↔
        (post.type = subject.type ∧ post.source = some subject.source) := by
    rcases hknown post hpost with hrule | ⟨source, hsource⟩ | hsupervisor
    · have hother : post.type ≠ subject.type := fun h => htype (h.symm.trans hrule)
      exact ⟨fun h => absurd h.1 hother, fun h => absurd h.1 hother⟩
    · rw [event_source hsource (source_id_short source), hsource, Option.some.injEq]
      rfl
    · rw [event_source hsupervisor (by decide), hsupervisor, Option.some.injEq]
      rfl
  unfold observed reported
  rw [List.filter_map, List.map_map]
  have hfilter : posts.filter ((fun event : Event =>
      decide (event.type = subject.type ∧ event.source = subject.source)) ∘ Post.event) =
      posts.filter fun post => decide (post.type = subject.type ∧
        post.source = some subject.source) := by
    refine List.filter_congr fun post hpost => ?_
    exact decide_eq_decide.mpr (hsame post hpost)
  rw [hfilter]
  rfl

/-- In every run, what the bus delivers, and then what waits, are events of the posts, in
their order and each once; the others it has counted; and the rest of the device is as
the handlers leave it that react to each delivery in turn. As long as it has counted
none, the deliveries and what waits are the changes of every subject, so that once
nothing waits the last delivery about a subject tells what it is now. -/
theorem observers_run (machines : EntryMachines SupervisorState EventId)
    (hmachines : machines.Documented) (react : H → Event → S → S) (state : S)
    (labels : List (Label H)) :
    let p := run (step machines react) (boot state) labels
    let heard := p.world.deliveries.map (·.event)
    let waiting := p.world.bus.pending
    (heard ++ waiting).Sublist (p.posts.map Post.event) ∧
    p.world.bus.dropped = (p.posts.length - (heard ++ waiting).length) % 2^32 ∧
    p.world.state = p.world.deliveries.foldl (reacting react) state ∧
    (p.world.bus.dropped = 0 → p.posts.length < 2^32 → ∀ subject : Subject,
      observed subject (heard ++ waiting) =
        (changes (step machines react) (Platform.value subject) (boot state) labels).map
          Prod.fst ∧
      (waiting = [] → (observed subject heard).getLastD
        (Platform.value subject (boot state : Platform H S)).1 = (p.value subject).1)) := by
  intro p heard waiting
  obtain ⟨hqueued, ⟨taken, hsub, haccepted, hdropped⟩, deliveries, hdelivered, hstate⟩ :=
    run_carried react machines state labels
  have hrecorded : Recorded p := run_recorded react hmachines state labels
  have htaken : heard ++ waiting = taken := by
    have hall := (hqueued (queued_initial state)).accepted
    rw [List.append_nil] at hall
    exact hall.symm.trans (haccepted.trans (List.nil_append _))
  have hcount : p.world.bus.dropped = (p.posts.length - (heard ++ waiting).length) % 2^32 := by
    rw [htaken, hdropped 0 rfl, Nat.zero_add]
  refine ⟨?_, hcount, ?_, fun hnone hfew subject => ?_⟩
  · rw [htaken]
    exact hsub
  · have hall : p.world.deliveries = deliveries := hdelivered.trans (List.nil_append _)
    rw [hall]
    exact hstate
  · -- a bus that has counted none, of fewer posts than the counter holds, has taken all
    have hevery : heard ++ waiting = p.posts.map Post.event := by
      have hle : (heard ++ waiting).length ≤ p.posts.length := by
        have hlength := hsub.length_le
        rw [← htaken, List.length_map] at hlength
        exact hlength
      rw [hnone, Nat.mod_eq_of_lt (by omega)] at hcount
      refine List.Sublist.eq_of_length (htaken ▸ hsub) ?_
      rw [List.length_map]
      omega
    have hchanges : observed subject (heard ++ waiting) =
        (changes (step machines react) (Platform.value subject) (boot state) labels).map
          Prod.fst := by
      rw [hevery, observed_events subject hrecorded.known]
      exact run_reported react hmachines state labels subject
    refine ⟨hchanges, fun hnothing => ?_⟩
    rw [hnothing, List.append_nil] at hchanges
    have hlast := getLastD_changes (step machines react) (Platform.value subject) (boot state)
      labels
    rw [hchanges, ← hlast]
    exact List.getLastD_map

/-- A device that comes online, with a subscriber that counts what it hears. -/
def onlineLabels : List (Label Unit) :=
  [.subscribe (some ()), .beginSupervisor 1, .sample 5 true true true, .evaluate 6, .process 8]

/-- The subscriber has learnt that the supervisor runs. -/
theorem observers_run_sample :
    let p := run (step sampleEntryMachines fun _ _ (s : ℕ) => s + 1) (boot 0) onlineLabels
    (observed .supervisor (p.world.deliveries.map (·.event))).getLastD 0 = 1 := by
  obtain ⟨-, -, -, hknows⟩ := observers_run sampleEntryMachines sampleEntryMachines_documented
    (fun (_ : Unit) _ (s : ℕ) => s + 1) 0 onlineLabels
  exact ((hknows (by decide) (by decide) .supervisor).2 (by decide)).trans (by decide)

/-! ### The supervisor -/

/-- A component with a new id is registered last. -/
theorem add_components {registry : ComponentRegistry} {component : RegisteredComponent}
    (hroom : registry.components.length < MAX_COMPONENTS)
    (hnew : ∀ known ∈ registry.components, cString known.id ≠ cString component.id) :
    (registry.add component).1.components = registry.components ++ [component] := by
  have hfull : ¬MAX_COMPONENTS ≤ registry.size := Nat.not_le.mpr hroom
  have hfound : ¬(registry.find component.id).isSome := by
    rw [ComponentRegistry.find, List.find?_isSome]
    rintro ⟨known, hknown, hsame⟩
    exact hnew known hknown (beq_iff_eq.mp hsame)
  unfold ComponentRegistry.add
  rw [dif_neg hfull, dif_neg hfound]

/-- Components with different ids are all registered, as long as there is room. -/
theorem foldl_add_components (components : List RegisteredComponent)
    (registry : ComponentRegistry)
    (hroom : registry.components.length + components.length ≤ MAX_COMPONENTS)
    (hnew : ∀ known ∈ registry.components, ∀ component ∈ components,
      cString known.id ≠ cString component.id)
    (hids : components.Pairwise fun a b => cString a.id ≠ cString b.id) :
    (components.foldl (fun registry component => (registry.add component).1) registry).components =
      registry.components ++ components := by
  induction components generalizing registry with
  | nil => exact (List.append_nil _).symm
  | cons component components ih =>
    rw [List.length_cons] at hroom
    obtain ⟨hfirst, hrest⟩ := List.pairwise_cons.mp hids
    have hadded : (registry.add component).1.components = registry.components ++ [component] :=
      add_components (by omega) fun known hknown => hnew known hknown component List.mem_cons_self
    rw [List.foldl_cons, ih _ _ _ hrest, hadded, List.append_assoc, List.singleton_append]
    · rw [hadded, List.length_append, List.length_singleton]
      omega
    · intro known hknown other hother
      rw [hadded] at hknown
      rcases List.mem_append.mp hknown with hold | hlast
      · exact hnew known hold other (List.mem_cons_of_mem _ hother)
      · rw [List.mem_singleton.mp hlast]
        exact hfirst other hother

omit [DecidableEq H] in
/-- The components are registered. -/
theorem registry_components (p : Platform H S) : p.registry.components = p.components := by
  have hids : ([Connectivity.kind.id, Input.kind.id, (Actuator.kind .heater).id,
      (Actuator.kind .scheduleOutput).id].Pairwise fun a b => cString a ≠ cString b) := by
    decide
  have hroom : ComponentRegistry.empty.components.length + p.components.length ≤ MAX_COMPONENTS :=
    (by decide : 0 + 4 ≤ 24)
  have hpairwise : p.components.Pairwise fun a b => cString a.id ≠ cString b.id := by
    have hmap : p.components.map (·.id) = [Connectivity.kind.id, Input.kind.id,
        (Actuator.kind .heater).id, (Actuator.kind .scheduleOutput).id] := rfl
    rw [← hmap, List.pairwise_map] at hids
    exact hids
  exact foldl_add_components p.components .empty hroom
    (fun known hknown => absurd hknown List.not_mem_nil) hpairwise

/-- The health that a state of the connectivity component stands for. -/
def Connectivity.healthOf : Connectivity.State → HealthState
  | .Starting => .Recovering
  | .Offline => .Degraded
  | .WifiOnly => .Degraded
  | .Online => .Ok

/-- The health that a state of the input stands for. -/
def Input.healthOf : VirtualComponents.VirtualInput.State → HealthState
  | .Disabled => .Disabled
  | .Ready => .Ok
  | .Fault => .Fault

/-- The health that a state of an actuator stands for. -/
def Actuator.healthOf : Actuator.State → HealthState
  | .Disabled => .Disabled
  | .Off => .Ok
  | .On => .Ok

/-- Every component has the health that its state stands for. -/
structure Healthy (p : Platform H S) : Prop where
  /-- The health of the connectivity is that of its state. -/
  connectivity : p.connectivity.health.state = Connectivity.healthOf p.connectivity.state
  /-- And so is the health of the input. -/
  temperature :
    p.temperature.component.health.state = Input.healthOf p.temperature.component.state
  /-- And that of each output. -/
  outputs : ∀ o, (p.outputs o).health.state = Actuator.healthOf (p.outputs o).state

omit [DecidableEq H] in
/-- The step lemma of one component: a transition to a health that fits its state. -/
theorem transitionTo_health {σ : Type} [DecidableEq σ] {healthOf : σ → HealthState}
    (kind : Kind σ) (now : ℕ) {nextState : σ} {nextHealth : HealthState} (faultCode : String)
    (c : Component σ) (hnext : nextHealth = healthOf nextState) :
    (c.transitionTo kind now nextState nextHealth faultCode).1.health.state =
      healthOf (c.transitionTo kind now nextState nextHealth faultCode).1.state := by
  have hstate : (c.healthAfter kind now nextHealth (cString faultCode)).state = nextHealth :=
    healthValue_injective (congrArg Prod.fst (healthAfter_pair kind now nextHealth
      (cString faultCode) c))
  exact hstate.trans hnext

/-- After a sample the connectivity has the health of its state. -/
theorem sample_health (now : ℕ) (wifiUp configured mqttUp : Bool)
    (c : Component Connectivity.State) :
    (Connectivity.sample now wifiUp configured mqttUp c).1.health.state =
      Connectivity.healthOf (Connectivity.sample now wifiUp configured mqttUp c).1.state := by
  unfold Connectivity.sample
  split
  · exact transitionTo_health _ now _ c rfl
  · split
    · exact transitionTo_health _ now _ c rfl
    · split
      · exact transitionTo_health _ now _ c rfl
      · exact transitionTo_health _ now _ c rfl

omit [DecidableEq H] in
/-- An input with the health of its state keeps the platform healthy. -/
theorem healthy_setInput {p : Platform H S} (hp : Healthy p) {changed : Input × List Post}
    (hchanged : changed.1.component.health.state = Input.healthOf changed.1.component.state) :
    Healthy (p.setInput changed) := ⟨hp.connectivity, hchanged, hp.outputs⟩

omit [DecidableEq H] in
/-- An output with the health of its state keeps the platform healthy. -/
theorem healthy_setOutput {p : Platform H S} (hp : Healthy p) (o : Output)
    {changed : Component Actuator.State × List Post}
    (hchanged : changed.1.health.state = Actuator.healthOf changed.1.state) :
    Healthy (p.setOutput o changed) := by
  refine ⟨hp.connectivity, hp.temperature, fun other => ?_⟩
  change (Function.update p.outputs o changed.1 other).health.state =
    Actuator.healthOf (Function.update p.outputs o changed.1 other).state
  by_cases hsame : other = o
  · subst hsame
    rw [Function.update_self]
    exact hchanged
  · rw [Function.update_of_ne hsame]
    exact hp.outputs other

/-- The step lemma. -/
theorem step_healthy {p : Platform H S} (hp : Healthy p) (label : Label H) :
    Healthy (step machines react p label) := by
  cases label with
  | sample now wifiUp configured mqttUp =>
    exact ⟨sample_health now wifiUp configured mqttUp p.connectivity, hp.temperature, hp.outputs⟩
  | setValue now milliValue =>
    refine healthy_setInput hp ?_
    cases milliValue with
    | none => exact hp.temperature
    | some milliValue => exact transitionTo_health _ now _ _ rfl
  | injectFault now faultCode => exact healthy_setInput hp (transitionTo_health _ now _ _ rfl)
  | recover now =>
    refine healthy_setInput hp ?_
    unfold Input.recover
    split
    · exact transitionTo_health _ now _ _ rfl
    · exact transitionTo_health _ now _ _ rfl
  | disableInput now => exact healthy_setInput hp (transitionTo_health _ now _ _ rfl)
  | enable o now initialOn =>
    refine healthy_setOutput hp o (transitionTo_health _ now _ _ ?_)
    cases initialOn <;> rfl
  | disable o now => exact healthy_setOutput hp o (transitionTo_health _ now _ _ rfl)
  | applyDesired o now desiredOn =>
    refine healthy_setOutput hp o ?_
    unfold Actuator.applyDesired
    split
    · exact hp.outputs o
    · refine transitionTo_health _ now _ _ ?_
      cases desiredOn <;> rfl
  | beginSupervisor | evaluate | ruleEvaluated | subscribe | process =>
    exact ⟨hp.connectivity, hp.temperature, hp.outputs⟩

omit [DecidableEq H] in
/-- The components of the booted platform have the health of their states. -/
theorem healthy_boot (state : S) : Healthy (boot state : Platform H S) := ⟨rfl, rfl, fun _ => rfl⟩

/-- The state that the supervisor is to be in, by the states of the components. -/
def Platform.expected (p : Platform H S) : SupervisorState :=
  if p.temperature.component.state = .Fault then .Fault
  else if p.connectivity.state = .Online then .Running else .Degraded

omit [DecidableEq H] in
/-- The worst health of the components, by their states. -/
theorem worst_components {p : Platform H S} (hp : Healthy p) :
    worst p.components = p.expected := by
  have houtput (o : Output) : (p.outputs o).health.state = .Ok ∨
      (p.outputs o).health.state = .Disabled := by
    rw [hp.outputs o]
    cases (p.outputs o).state
    · exact .inr rfl
    · exact .inl rfl
    · exact .inl rfl
  have houtputs (o : Output) (health : HealthState) (hok : health ≠ .Ok)
      (hdisabled : health ≠ .Disabled) : ¬(p.outputs o).health.state = health := by
    intro h
    rcases houtput o with hstate | hstate
    · exact hok (h.symm.trans hstate)
    · exact hdisabled (h.symm.trans hstate)
  have hfault : (∃ component ∈ p.components, component.health = .Fault) ↔
      p.temperature.component.state = .Fault := by
    simp only [Platform.components, List.mem_cons, List.not_mem_nil, or_false, exists_eq_or_imp,
      exists_eq_left, houtputs _ .Fault nofun nofun, hp.connectivity, hp.temperature]
    cases p.connectivity.state <;> cases p.temperature.component.state <;>
      simp [Connectivity.healthOf, Input.healthOf]
  have hdegraded : (∃ component ∈ p.components,
      component.health = .Degraded ∨ component.health = .Recovering) ↔
        ¬p.connectivity.state = .Online := by
    simp only [Platform.components, List.mem_cons, List.not_mem_nil, or_false, exists_eq_or_imp,
      exists_eq_left, houtputs _ .Degraded nofun nofun, houtputs _ .Recovering nofun nofun,
      hp.connectivity, hp.temperature]
    cases p.connectivity.state <;> cases p.temperature.component.state <;>
      simp [Connectivity.healthOf, Input.healthOf]
  unfold worst Platform.expected
  simp only [hfault, hdegraded, ite_not]

/-! ### Runs of the supervisor -/

/-- The run has begun the supervisor. -/
def Begins (labels : List (Label H)) : Prop := ∃ now, .beginSupervisor now ∈ labels

/-- Only `begin` starts the supervisor, for good. -/
theorem step_started {machines : EntryMachines SupervisorState EventId}
    (hmachines : machines.Documented) {p : Platform H S} (hp : Kept p.supervisor)
    (label : Label H) : (step machines react p label).supervisor.started = true ↔
      p.supervisor.started = true ∨ ∃ now, label = .beginSupervisor now := by
  cases label with
  | beginSupervisor now =>
    have hstarted : (p.supervisor.begin machines now).started = true :=
      (begin_mirrored now hmachines hp.mirrored).2
    exact ⟨fun _ => .inr ⟨now, rfl⟩, fun _ => hstarted⟩
  | evaluate now =>
    have hstarted : (p.supervisor.evaluate machines now p.registry).started =
        p.supervisor.started := (evaluate_kept hmachines hp.mirrored now p.registry).2.2
    simp [step, Platform.supervise, Platform.send, hstarted]
  | sample | setValue | injectFault | recover | disableInput | enable | disable | applyDesired
    | ruleEvaluated | subscribe | process =>
    simp [step, Platform.setInput, Platform.setOutput, Platform.send]

/-- The supervisor has been started exactly when a run has begun it. -/
theorem run_started {machines : EntryMachines SupervisorState EventId}
    (hmachines : machines.Documented) {p : Platform H S} (hp : Kept p.supervisor)
    (labels : List (Label H)) : (run (step machines react) p labels).supervisor.started = true ↔
      p.supervisor.started = true ∨ Begins labels := by
  induction labels generalizing p with
  | nil => simp [run, Begins]
  | cons label labels ih =>
    have hnext := (step_posted react hmachines hp label).1
    have hbegins : Begins (label::labels) ↔
        (∃ now, label = .beginSupervisor now) ∨ Begins labels := by
      simp only [Begins, List.mem_cons, exists_or, eq_comm]
    rw [run_cons, ih hnext, step_started react hmachines hp label, hbegins, or_assoc]

/-- In every run that has begun the supervisor, an evaluation leaves it in `Fault` exactly
when the input is faulty, else in `Running` exactly when the connectivity component is
online, and else in `Degraded`, whatever the actuators do. Before that it leaves it in
`Initializing`. It posts its state exactly when that changes. -/
theorem supervised_run (machines : EntryMachines SupervisorState EventId)
    (hmachines : machines.Documented) (react : H → Event → S → S) (state : S)
    (labels : List (Label H)) (now : ℕ) :
    let p := run (step machines react) (boot state) labels
    let q := step machines react p (.evaluate now)
    (Begins labels → q.supervisor.state = p.expected) ∧
    (¬Begins labels → q.supervisor.state = .Initializing) ∧
    q.posts = p.posts ++ if q.supervisor.state = p.supervisor.state then []
      else [statePost now q.supervisor.state] := by
  intro p q
  have hkept : Kept p.supervisor := (run_recorded react hmachines state labels).kept
  have hhealthy : Healthy p := run_invariant (I := fun p : Platform H S => Healthy p)
    (fun p label hp => step_healthy react machines hp label) (healthy_boot state) labels
  have hstarted : p.supervisor.started = true ↔ Begins labels := by
    have hwaiting : ¬(boot state : Platform H S).supervisor.started = true := nofun
    exact (run_started react hmachines (kept_boot state) labels).trans (or_iff_right hwaiting)
  have hsupervisor : q.supervisor = p.supervisor.evaluate machines now p.registry := rfl
  refine ⟨fun hbegins => ?_, fun hbegins => ?_, ?_⟩
  · have hnonempty : p.registry.components ≠ [] := by
      rw [registry_components]
      exact List.cons_ne_nil _ _
    have hevaluated := (evaluate_spec hmachines hkept.mirrored (hstarted.mpr hbegins) now
      p.registry).2.2 hnonempty
    rw [hsupervisor, hevaluated.state, registry_components, worst_components hhealthy]
  · have hwaiting : p.supervisor.started = false :=
      Bool.eq_false_iff.mpr fun h => hbegins (hstarted.mp h)
    rw [hsupervisor, evaluate_of_not_started hwaiting]
    exact (hkept.waiting hwaiting).1
  · have hchange : PostsChange now p.supervisor q.supervisor :=
      (evaluate_kept hmachines hkept.mirrored now p.registry).2.1
    have hposts : q.posts = p.posts ++ q.supervisor.posts.drop p.supervisor.posts.length := rfl
    rw [hposts, hchange]
    split
    · rw [List.drop_length]
    · rw [List.drop_left]

/-- The input fails while the device is online. -/
theorem supervised_run_sample :
    (step sampleEntryMachines (fun _ _ (s : Unit) => s)
      (run (step sampleEntryMachines fun (_ : Unit) _ (s : Unit) => s) (boot ())
        [.beginSupervisor 1, .sample 5 true true true, .injectFault 6 "probe"])
      (.evaluate 7)).supervisor.state = .Fault :=
  ((supervised_run sampleEntryMachines sampleEntryMachines_documented
    (fun (_ : Unit) _ (s : Unit) => s) () _ 7).1 ⟨1, by simp⟩).trans (by decide)

end ProjEsp32.ComponentReports
