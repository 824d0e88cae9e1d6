import ProjEsp32.EventDispatch
import ProjEsp32.RuleEvaluation

/-!
# Events of the rule engine

An evaluation posts an event whose source is the identifier of the rule. An identifier
may have 48 characters and the source of an event has room for 23 of them; what does
not fit is cut off by the copy into the queue, without a word.
-/

namespace ProjEsp32.RuleEvents

open ArduinoJson ArduinoText EventDispatch RuleEvaluation TransitionRuns
open RuntimeCore (MAX_HANDLERS SOURCE_SIZE)

variable {α H S : Type} [Zero α] [LT α] [DecidableLT α]

/-- The numbers of the decisions. -/
def decisionCode : RuleDecision → ℤ
  | .None => 0
  | .TurnOff => 1
  | .TurnOn => 2
  | .Hold => 3
  | .Disabled => 4

/-- `evaluate` at `millis()`, with the event that it posts before it returns; none where
it posts nothing. -/
def evaluate (inputValue : CFloat α) (currentOutput : Bool) (millis : ℕ) (engine : RuleEngine α) :
    (RuleEngine α × Option Post) × Except String (Bool × RuleDecision) :=
  if !engine.configured then
    (({ engine with lastError := "rule_not_configured" }, none), .error "rule_not_configured")
  else if !engine.rule.enabled then
    (({ engine with lastDecision := .Disabled, lastError := "" }, none),
      .ok (currentOutput, .Disabled))
  else if !inputValue.isfinite then
    (({ engine with lastError := "rule_input_invalid" }, none), .error "rule_input_invalid")
  else
    let decided := RuleEngine.decision engine.rule inputValue currentOutput
    (({ engine with lastDecision := decided.2, lastError := "" },
      some ⟨typeCode .RuleEvaluated, some engine.rule.id, decisionCode decided.2, millis⟩),
      .ok decided)

/-- An evaluation whose event was accepted. -/
structure Evaluated where
  /-- The identifier of the rule that was evaluated. -/
  id : String
  /-- How many events had been accepted before. -/
  index : ℕ
  deriving DecidableEq

/-- The rule engine and the bus that it posts to. -/
structure Device (α H S : Type) [Zero α] where
  /-- The rule engine. -/
  engine : RuleEngine α := {}
  /-- The bus, and what its handlers change. -/
  world : World H S
  /-- The evaluations whose events were accepted; nothing reads them. -/
  evaluations : List Evaluated := []

/-- A call of the engine, or any other call of the bus. -/
inductive Label (α H : Type) [Zero α] where
  | configure (rule : HysteresisRule α)
  | clear
  | evaluate (inputValue : CFloat α) (currentOutput : Bool) (millis : ℕ)
  | call (call : Call H)

/-- An evaluation, with the post that it makes. -/
def Device.evaluate (inputValue : CFloat α) (currentOutput : Bool) (millis : ℕ)
    (d : Device α H S) : Device α H S :=
  let evaluated := (RuleEvents.evaluate inputValue currentOutput millis d.engine).1
  match evaluated.2 with
  | none => { d with engine := evaluated.1 }
  | some p =>
    let posted := d.world.post p
    { engine := evaluated.1
      world := posted.1
      evaluations :=
        if posted.2 then d.evaluations ++ [⟨d.engine.rule.id, d.world.accepted.length⟩]
        else d.evaluations }

/-- One step; a rule that is refused leaves the engine as it is. -/
def step [DecidableEq H] (respond : H → Event → S → Handling H S) (d : Device α H S) :
    Label α H → Device α H S
  | .configure rule =>
    match d.engine.configure rule with
    | .error _ => d
    | .ok engine => { d with engine }
  | .clear => { d with engine := RuleEngine.clear }
  | .evaluate inputValue currentOutput millis => d.evaluate inputValue currentOutput millis
  | .call call => { d with world := EventDispatch.step respond d.world call }

/-! ### The source of an event -/

/-- The characters of an identifier that fit into the source of an event. -/
def fitting (id : String) : String := String.ofList (id.toList.take (SOURCE_SIZE - 1))

/-- They are all of it exactly when there are no more than 23. -/
theorem fitting_eq_iff {id : String} : fitting id = id ↔ id.length ≤ SOURCE_SIZE - 1 := by
  rw [fitting, ← String.toList_inj, String.toList_ofList, ← String.length_toList]
  constructor
  · intro h
    have hlength := congrArg List.length h
    rw [List.length_take] at hlength
    omega
  · exact List.take_of_length_le

/-- A valid identifier has no zero byte. -/
theorem cString_of_validId {id : String} (h : RuleEngine.validId id = true) : cString id = id := by
  refine cString_eq_self fun c hc hzero => ?_
  simp only [RuleEngine.validId, ConfigurationDocument.validId, Bool.and_eq_true,
    List.all_eq_true] at h
  have hchar := h.2 c hc
  rw [hzero] at hchar
  exact absurd hchar (by decide)

/-- The engine runs no rule whose identifier it would refuse. -/
def Identifies (engine : RuleEngine α) : Prop :=
  engine.configured = true → RuleEngine.validId engine.rule.id = true

/-- The engine after an evaluation, and the post of it. -/
theorem evaluate_spec (inputValue : CFloat α) (currentOutput : Bool) (millis : ℕ)
    (engine : RuleEngine α) :
    let evaluated := (evaluate inputValue currentOutput millis engine).1
    evaluated.1.rule = engine.rule ∧ evaluated.1.configured = engine.configured ∧
      ∀ p, evaluated.2 = some p → engine.configured = true ∧
        p.type = typeCode .RuleEvaluated ∧ p.source = some engine.rule.id := by
  unfold evaluate
  split
  · exact ⟨rfl, rfl, fun _ h => by cases h⟩
  · rename_i hconfigured
    split
    · exact ⟨rfl, rfl, fun _ h => by cases h⟩
    · split
      · exact ⟨rfl, rfl, fun _ h => by cases h⟩
      · refine ⟨rfl, rfl, fun p h => ?_⟩
        cases h
        exact ⟨by simpa using hconfigured, rfl, rfl⟩

/-- What holds of the identifier of a configured rule still does after an evaluation. -/
theorem evaluate_engine {P : String → Prop} {engine : RuleEngine α}
    (h : engine.configured = true → P engine.rule.id) (inputValue : CFloat α)
    (currentOutput : Bool) (millis : ℕ) :
    (evaluate inputValue currentOutput millis engine).1.1.configured = true →
      P (evaluate inputValue currentOutput millis engine).1.1.rule.id := by
  obtain ⟨hrule, hconfigured, -⟩ := evaluate_spec inputValue currentOutput millis engine
  intro hset
  rw [hrule]
  exact h (hconfigured ▸ hset)

/-- It is the evaluation of the rule runtime, over its bus: the engines and the answers
are the same, and the one posts where the other does. -/
theorem evaluate_eq (inputValue : CFloat α) (currentOutput : Bool) (millis : ℕ)
    (engine : RuleEngine α) (bus : RuntimeCore.EventBus H) :
    let out := evaluate inputValue currentOutput millis engine
    engine.evaluate inputValue currentOutput bus =
      ((out.1.1, if out.1.2.isSome then bus.post .RuleEvaluated engine.rule.id else bus),
        out.2) := by
  unfold evaluate RuleEngine.evaluate
  split
  · rfl
  · split
    · rfl
    · split <;> rfl

/-! ### What was accepted stays -/

section Accepted

variable {w : World H S}

omit [Zero α] [LT α] [DecidableLT α] in
/-- A post that returns true adds its event to what was accepted. -/
theorem accepted_of_post {p : Post} (h : (w.post p).2 = true) :
    (w.post p).1.accepted = w.accepted ++ [p.event] := by
  unfold World.post at h ⊢
  exact if_pos h

omit [Zero α] [LT α] [DecidableLT α] in
/-- No post takes anything away. -/
theorem accepted_post (p : Post) : w.accepted <+: (w.post p).1.accepted := by
  unfold World.post
  dsimp only
  split
  · exact List.prefix_append _ _
  · exact List.prefix_refl _

variable [DecidableEq H] (respond : H → Event → S → Handling H S)

/-- A handler, by induction on what it does. -/
theorem accepted_handle (handling : Handling H S) :
    w.accepted <+: (w.handle handling).accepted := by
  induction handling generalizing w with
  | done state => exact List.prefix_refl _
  | post p next ih => exact (accepted_post p).trans (ih _)
  | subscribe handler next ih =>
    have hsame : (w.subscribe handler).1.accepted = w.accepted := rfl
    rw [World.handle, ← hsame]
    exact ih _

/-- The handlers of an event, by induction on the turns of the loop. -/
theorem accepted_dispatch (event : Event) (turns index : ℕ) :
    w.accepted <+: (w.dispatch respond event turns index).1.accepted := by
  induction turns generalizing index w with
  | zero => exact List.prefix_refl _
  | succ turns ih =>
    unfold World.dispatch
    split
    · exact List.prefix_refl _
    · exact (accepted_handle _).trans (ih _)

/-- The delivery of an event. -/
theorem accepted_deliver (event : Event) (w : World H S) :
    w.accepted <+: (w.deliver respond event).accepted := by
  unfold World.deliver
  exact accepted_dispatch respond event MAX_HANDLERS 0

/-- The events that are processed, by induction on their number. -/
theorem accepted_process (maxEvents : ℕ) :
    w.accepted <+: (w.process respond maxEvents).1.accepted := by
  induction maxEvents generalizing w with
  | zero => exact List.prefix_refl _
  | succ maxEvents ih =>
    unfold World.process
    split
    · exact List.prefix_refl _
    · rename_i event bus _
      have hdelivered := accepted_deliver respond event { w with bus }
      exact hdelivered.trans ih

/-- Any call of the bus. -/
theorem accepted_step (call : Call H) :
    w.accepted <+: (EventDispatch.step respond w call).accepted := by
  cases call with
  | subscribe handler => exact List.prefix_refl _
  | post p => exact accepted_post p
  | process maxEvents => exact accepted_process respond maxEvents

end Accepted

/-! ### Runs -/

section Recording

variable [DecidableEq H]

/-- A configuration is refused, or brings a rule whose identifier is valid. -/
theorem step_configure (respond : H → Event → S → Handling H S)
    (d : Device α H S) (rule : HysteresisRule α) :
    step respond d (.configure rule) = d ∨
      ∃ engine, RuleEngine.validId rule.id = true ∧ engine.rule = rule ∧
        step respond d (.configure rule) = { d with engine } := by
  cases hconfigure : d.engine.configure rule with
  | error _ =>
    left
    simp only [step, hconfigure]
  | ok engine =>
    obtain ⟨hrule, hid⟩ := RuleEngine.configure_rule hconfigure
    refine .inr ⟨engine, hrule ▸ hid, hrule, ?_⟩
    simp only [step, hconfigure]

/-- Every recorded evaluation is of a valid rule, and its event is among those that were
accepted, in its place and with what fits of the identifier. -/
structure Recorded (d : Device α H S) : Prop where
  /-- The queue is in order. -/
  queued : Queued d.world []
  /-- The rule of the engine has a valid identifier. -/
  engine : Identifies d.engine
  /-- Each evaluation has its event in its place. -/
  posted : ∀ e ∈ d.evaluations, RuleEngine.validId e.id = true ∧
    ∃ event, d.world.accepted[e.index]? = some event ∧
      event.type = typeCode .RuleEvaluated ∧ event.source = fitting e.id

omit [LT α] [DecidableLT α] in
/-- What was recorded stays recorded when more is accepted. -/
theorem Recorded.of_prefix {d : Device α H S} (h : Recorded d) {world : World H S}
    (hqueued : Queued world []) (haccepted : d.world.accepted <+: world.accepted) :
    Recorded { d with world } where
  queued := hqueued
  engine := h.engine
  posted := by
    intro e he
    obtain ⟨hid, event, hevent, hspec⟩ := h.posted e he
    obtain ⟨more, hmore⟩ := haccepted
    refine ⟨hid, event, ?_, hspec⟩
    obtain ⟨hlt, -⟩ := List.getElem?_eq_some_iff.mp hevent
    dsimp only
    rw [← hmore, List.getElem?_append_left hlt, hevent]

/-- An evaluation records what the bus accepts of it. -/
theorem evaluate_recorded {d : Device α H S} (h : Recorded d) (inputValue : CFloat α)
    (currentOutput : Bool) (millis : ℕ) :
    Recorded (d.evaluate inputValue currentOutput millis) := by
  obtain ⟨-, -, hpost⟩ := evaluate_spec inputValue currentOutput millis d.engine
  have hengine : Identifies (evaluate inputValue currentOutput millis d.engine).1.1 :=
    evaluate_engine (P := fun id => RuleEngine.validId id = true) h.engine inputValue currentOutput
      millis
  unfold Device.evaluate
  dsimp only
  cases hevent : (evaluate inputValue currentOutput millis d.engine).1.2 with
  | none => exact ⟨h.queued, hengine, h.posted⟩
  | some p =>
    obtain ⟨hset, htype, hsource⟩ := hpost p hevent
    have hid := h.engine hset
    have hposted := h.of_prefix (post_handled h.queued p).queued (accepted_post p)
    refine ⟨hposted.queued, hengine, fun e he => ?_⟩
    dsimp only at he
    split at he
    · rename_i haccepted
      rcases List.mem_append.mp he with hold | hnew
      · exact hposted.posted e hold
      · rw [List.mem_singleton.mp hnew]
        refine ⟨hid, p.event, ?_, htype, ?_⟩
        · dsimp only
          rw [accepted_of_post haccepted, List.getElem?_concat_length]
        · rw [Post.event, hsource, Option.getD_some, cString_of_validId hid]
          rfl
    · exact hposted.posted e he

/-- Every step keeps the record. -/
theorem step_recorded (respond : H → Event → S → Handling H S) {d : Device α H S}
    (h : Recorded d) (label : Label α H) : Recorded (step respond d label) := by
  cases label with
  | configure rule =>
    rcases step_configure respond d rule with hrefused | ⟨engine, hid, rfl, hset⟩
    · rw [hrefused]
      exact h
    · rw [hset]
      exact ⟨h.queued, fun _ => hid, h.posted⟩
  | clear => exact ⟨h.queued, (fun hset => by cases hset), h.posted⟩
  | evaluate inputValue currentOutput millis => exact evaluate_recorded h _ _ _
  | call call => exact h.of_prefix (step_queued respond h.queued call) (accepted_step respond call)

omit [LT α] [DecidableLT α] in
/-- A device that has just started. -/
theorem recorded_initial (state : S) :
    Recorded ({ world := { state } } : Device α H S) where
  queued := queued_initial state
  engine := fun h => by cases h
  posted := fun e he => by cases he

/-- The delivery of the event of an evaluation; none while it waits. -/
def Device.delivery (d : Device α H S) (e : Evaluated) : Option (Delivery H) :=
  d.world.deliveries[e.index]?

omit [LT α] [DecidableLT α] in
/-- What a delivered event carries. -/
theorem delivered_event {d : Device α H S} (h : Recorded d) {e : Evaluated}
    (he : e ∈ d.evaluations) {delivery : Delivery H} (hdelivery : d.delivery e = some delivery) :
    delivery.event.type = typeCode .RuleEvaluated ∧ delivery.event.source = fitting e.id := by
  obtain ⟨-, event, hevent, hspec⟩ := h.posted e he
  have haccepted := h.queued.accepted
  rw [List.append_nil] at haccepted
  have hdelivered : (d.world.deliveries.map (·.event))[e.index]? = some delivery.event := by
    rw [List.getElem?_map]
    exact congrArg (Option.map (·.event)) hdelivery
  obtain ⟨hlt, -⟩ := List.getElem?_eq_some_iff.mp hdelivered
  rw [haccepted, List.getElem?_append_left hlt, hdelivered] at hevent
  rw [Option.some_inj.mp hevent]
  exact hspec

end Recording

/-- A configuration whose identifier has the property. -/
def Configures (P : String → Prop) (label : Label α H) : Prop :=
  ∀ rule, label = .configure rule → P rule.id

/-- Rules come from configurations only: the engine's own, and those that were evaluated. -/
structure Configured (P : String → Prop) (d : Device α H S) : Prop where
  /-- The rule of the engine has the property. -/
  engine : d.engine.configured = true → P d.engine.rule.id
  /-- And so have those that were evaluated. -/
  evaluations : ∀ e ∈ d.evaluations, P e.id

/-- A step keeps what every configured rule satisfies. -/
theorem step_configured [DecidableEq H] (respond : H → Event → S → Handling H S)
    {P : String → Prop} {d : Device α H S} (h : Configured P d) {label : Label α H}
    (hlabel : Configures P label) : Configured P (step respond d label) := by
  cases label with
  | configure rule =>
    rcases step_configure respond d rule with hrefused | ⟨engine, -, rfl, hset⟩
    · rw [hrefused]
      exact h
    · rw [hset]
      exact ⟨fun _ => hlabel engine.rule rfl, h.evaluations⟩
  | clear => exact ⟨(fun hset => by cases hset), h.evaluations⟩
  | evaluate inputValue currentOutput millis =>
    obtain ⟨-, -, hpost⟩ := evaluate_spec inputValue currentOutput millis d.engine
    have hengine := evaluate_engine h.engine inputValue currentOutput millis
    simp only [step, Device.evaluate]
    cases hevent : (evaluate inputValue currentOutput millis d.engine).1.2 with
    | none => exact ⟨hengine, h.evaluations⟩
    | some p =>
      refine ⟨hengine, fun e he => ?_⟩
      dsimp only at he
      split at he
      · rcases List.mem_append.mp he with hold | hnew
        · exact h.evaluations e hold
        · rw [List.mem_singleton.mp hnew]
          exact h.engine (hpost p hevent).1
      · exact h.evaluations e he
  | call call => exact ⟨h.engine, h.evaluations⟩

/-- Every event that was delivered for an evaluation tells the rule. -/
structure Identified (d : Device α H S) : Prop where
  /-- The event that was delivered has the identifier as its source. -/
  source : ∀ e ∈ d.evaluations, ∀ delivery, d.delivery e = some delivery →
    delivery.event.source = e.id
  /-- Rules with different identifiers have different sources. -/
  distinct : ∀ e ∈ d.evaluations, ∀ f ∈ d.evaluations, ∀ delivery other,
    d.delivery e = some delivery → d.delivery f = some other → e.id ≠ f.id →
      delivery.event.source ≠ other.event.source

/-- In every run, the event that is delivered for an evaluation carries the identifier of
the rule exactly when that has no more than 23 characters, and two such events have the
same source exactly when the identifiers agree in their first 23. So the rules are told
apart in every run that configures no longer identifiers. -/
theorem ruleEvaluated_source [DecidableEq H] (respond : H → Event → S → Handling H S) (state : S)
    (labels : List (Label α H)) :
    let start : Device α H S := { world := { state } }
    let d := run (step respond) start labels
    (∀ e ∈ d.evaluations, RuleEngine.validId e.id = true ∧
      ∀ delivery, d.delivery e = some delivery →
        delivery.event.type = typeCode .RuleEvaluated ∧
        (delivery.event.source = e.id ↔ e.id.length ≤ 23) ∧
        ∀ f ∈ d.evaluations, ∀ other, d.delivery f = some other →
          (delivery.event.source = other.event.source ↔
            e.id.toList.take 23 = f.id.toList.take 23)) ∧
    (Throughout (step respond) (fun _ label => Configures (fun id => id.length ≤ 23) label)
      start labels → Identified d) := by
  intro start d
  have hd : Recorded d := run_invariant (I := Recorded)
    (fun _ label h => step_recorded respond h label) (recorded_initial state) labels
  constructor
  · intro e he
    refine ⟨(hd.posted e he).1, fun delivery hdelivery => ?_⟩
    obtain ⟨htype, hsource⟩ := delivered_event hd he hdelivery
    rw [hsource]
    refine ⟨htype, fitting_eq_iff, fun f hf other hother => ?_⟩
    rw [(delivered_event hd hf hother).2]
    exact String.ofList_inj
  · intro hlabels
    have hshort : Configured (fun id => id.length ≤ 23) d :=
      run_invariant_of_throughout (I := Configured fun id => id.length ≤ 23)
        (fun _ _ h hlabel => step_configured respond h hlabel)
        ⟨(fun h => by cases h), fun e he => by cases he⟩ hlabels
    have hwhole (e : Evaluated) (he : e ∈ d.evaluations) (delivery : Delivery H)
        (hdelivery : d.delivery e = some delivery) : delivery.event.source = e.id := by
      rw [(delivered_event hd he hdelivery).2]
      exact fitting_eq_iff.mpr (hshort.evaluations e he)
    refine ⟨hwhole, fun e he f hf delivery other hdelivery hother hne => ?_⟩
    rw [hwhole e he delivery hdelivery, hwhole f hf other hother]
    exact hne

/-- Two rules whose identifiers differ in their last character, and an evaluation of each. -/
def sampleLabels : List (Label ℕ Bool) :=
  [.call (.subscribe (some true)),
    .configure ⟨"greenhouse.irrigation.low.1", true, .finite 1, .finite 2⟩,
    .evaluate (.finite 0) false 0,
    .configure ⟨"greenhouse.irrigation.low.2", true, .finite 1, .finite 2⟩,
    .evaluate (.finite 0) false 1, .call (.process 8)]

/-- The device after them, when all its events are delivered. -/
def sampleDevice : Device ℕ Bool Unit :=
  run (step fun _ _ state => .done state) { world := { state := () } } sampleLabels

/-- What the sample device has evaluated. -/
theorem sampleDevice_evaluations : sampleDevice.evaluations =
    [⟨"greenhouse.irrigation.low.1", 0⟩, ⟨"greenhouse.irrigation.low.2", 1⟩] := by
  decide +kernel

/-- What its handler has been given as the sources. -/
theorem sampleDevice_sources : sampleDevice.world.deliveries.map (·.event.source) =
    ["greenhouse.irrigation.l", "greenhouse.irrigation.l"] := by
  decide +kernel

/-- The two events have the same source, and it is the identifier of neither rule. -/
theorem ruleEvaluated_cutOff :
    ¬ ∀ (respond : Bool → Event → Unit → Handling Bool Unit) (labels : List (Label ℕ Bool)),
      Identified (run (step respond) { world := { state := () } } labels) := by
  intro h
  have hsample : Identified sampleDevice := h (fun _ _ state => .done state) sampleLabels
  have hdelivery (index : ℕ) (hsource : (sampleDevice.world.deliveries.map (·.event.source))[index]?
      = some "greenhouse.irrigation.l") : ∃ delivery,
      sampleDevice.world.deliveries[index]? = some delivery ∧
        delivery.event.source = "greenhouse.irrigation.l" := by
    rw [List.getElem?_map] at hsource
    exact Option.map_eq_some_iff.mp hsource
  obtain ⟨first, hfirst, hfirstSource⟩ := hdelivery 0 (by rw [sampleDevice_sources]; rfl)
  obtain ⟨second, hsecond, hsecondSource⟩ :=
    hdelivery 1 (by rw [sampleDevice_sources]; rfl)
  have hmem (e : Evaluated) (he : e ∈ ([⟨"greenhouse.irrigation.low.1", 0⟩,
      ⟨"greenhouse.irrigation.low.2", 1⟩] : List Evaluated)) : e ∈ sampleDevice.evaluations := by
    rw [sampleDevice_evaluations]
    exact he
  refine hsample.distinct ⟨"greenhouse.irrigation.low.1", 0⟩ (hmem _ (List.mem_cons_self))
    ⟨"greenhouse.irrigation.low.2", 1⟩ (hmem _ (List.mem_cons_of_mem _ List.mem_cons_self))
    first second hfirst hsecond (by decide) ?_
  rw [hfirstSource, hsecondSource]

end ProjEsp32.RuleEvents
