import ProjEsp32.Hysteresis
import ProjEsp32.RuleEvaluation

/-!
# Evaluating a rule again and again

The rule engine with what it records of its evaluations, and the runs in which
each desired output is the current output of the next evaluation. An enabled rule
is two-point control with the band between its thresholds.
-/

namespace ProjEsp32.HysteresisRuns

open ArduinoJson CheckedResult Hysteresis RuleEvaluation RuntimeCore TransitionRuns

variable {α H : Type} [Zero α]

/-- The engine with its record of the last evaluation. -/
structure RecordingEngine (α : Type) [Zero α] extends RuleEngine α where
  /-- The evaluations so far, in 32 bits. -/
  evaluationCount : UInt32 := 0
  /-- The input of the last one. -/
  lastInput : CFloat α := .finite 0
  /-- What it wanted the output to be. -/
  lastDesired : Bool := false

/-- What a call of `evaluate` leaves and returns. -/
structure Evaluation (α H : Type) [Zero α] where
  /-- The engine after the call. -/
  engine : RecordingEngine α
  /-- The bus after it. -/
  events : EventBus H
  /-- The return value. -/
  evaluated : Bool
  /-- What the output is to be. -/
  desiredOutput : Bool
  /-- The decision that led there. -/
  decision : RuleDecision := .None
  /-- Why there was no evaluation. -/
  error : String := ""

namespace RecordingEngine

variable [LT α] [DecidableLT α]

/-- `configure`; the record stays. -/
def configure (rule : HysteresisRule α) (engine : RecordingEngine α) :
    Except String (RecordingEngine α) := do
  let configured ← engine.toRuleEngine.configure rule
  return { engine with toRuleEngine := configured }

/-- An evaluation that ends with an error. -/
def failed (error : String) (currentOutput : Bool) (engine : RecordingEngine α)
    (events : EventBus H) : Evaluation α H where
  engine := { engine with lastError := error }
  events := events
  evaluated := false
  desiredOutput := currentOutput
  error := error

/-- `evaluate`. -/
def evaluate (inputValue : CFloat α) (currentOutput : Bool) (engine : RecordingEngine α)
    (events : EventBus H) : Evaluation α H :=
  if !engine.configured then engine.failed "rule_not_configured" currentOutput events
  else if !engine.rule.enabled then
    { engine := { engine with lastDecision := .Disabled, lastError := "" }
      events, evaluated := true, desiredOutput := currentOutput, decision := .Disabled }
  else if !inputValue.isfinite then engine.failed "rule_input_invalid" currentOutput events
  else
    let decided := RuleEngine.decision engine.rule inputValue currentOutput
    { engine := { engine with
        evaluationCount := engine.evaluationCount + 1, lastInput := inputValue
        lastDesired := decided.1, lastDecision := decided.2, lastError := "" }
      events := events.post .RuleEvaluated engine.rule.id
      evaluated := true, desiredOutput := decided.1, decision := decided.2 }

/-- Without its record the engine is the one of the rule runtime. -/
theorem evaluate_toRuleEngine (inputValue : CFloat α) (currentOutput : Bool)
    (engine : RecordingEngine α) (events : EventBus H) :
    let e := engine.evaluate inputValue currentOutput events
    engine.toRuleEngine.evaluate inputValue currentOutput events =
      ((e.engine.toRuleEngine, e.events),
        if e.evaluated then .ok (e.desiredOutput, e.decision) else .error e.error) := by
  unfold RuleEngine.evaluate evaluate
  split
  · rfl
  · split
    · rfl
    · split <;> rfl

/-- An evaluation that is none leaves output, counter and last input. -/
theorem evaluate_unchanged {inputValue : CFloat α} {engine : RecordingEngine α}
    (h : engine.configured = false ∨ engine.rule.enabled = false ∨ inputValue.isfinite = false)
    (currentOutput : Bool) (events : EventBus H) :
    let e := engine.evaluate inputValue currentOutput events
    e.desiredOutput = currentOutput ∧ e.engine.evaluationCount = engine.evaluationCount ∧
      e.engine.lastInput = engine.lastInput := by
  unfold evaluate
  cases hconfigured : engine.configured with
  | false => exact ⟨rfl, rfl, rfl⟩
  | true =>
    cases henabled : engine.rule.enabled with
    | false => exact ⟨rfl, rfl, rfl⟩
    | true =>
      have hinput : inputValue.isfinite = false := by simpa [hconfigured, henabled] using h
      rw [hinput]
      exact ⟨rfl, rfl, rfl⟩

end RecordingEngine

/-- An engine with the output that it controls. -/
structure Controlled (α H : Type) [Zero α] where
  /-- The engine. -/
  engine : RecordingEngine α
  /-- The bus that it posts to. -/
  events : EventBus H
  /-- The output. -/
  output : Bool

section Runs

variable [LT α] [DecidableLT α]

/-- The evaluation of one input. -/
def evaluation (s : Controlled α H) (input : CFloat α) : Evaluation α H :=
  s.engine.evaluate input s.output s.events

/-- The desired output is the next current output. -/
def feed (s : Controlled α H) (input : CFloat α) : Controlled α H where
  engine := (evaluation s input).engine
  events := (evaluation s input).events
  output := (evaluation s input).desiredOutput

/-- The decision that is reported for each input. -/
def decisions : Controlled α H → List (CFloat α) → List RuleDecision
  | _, [] => []
  | s, input::inputs => (evaluation s input).decision::decisions (feed s input) inputs

/-- What is controlled, without the record of its engine. -/
def Controlled.runtime (s : Controlled α H) : RuleEngine α × EventBus H × Bool :=
  (s.engine.toRuleEngine, s.events, s.output)

/-- The engine of the rule runtime, whose desired output is the next current output. -/
def feedRuntime (s : RuleEngine α × EventBus H × Bool) (input : CFloat α) :
    RuleEngine α × EventBus H × Bool :=
  let evaluated := s.1.evaluate input s.2.2 s.2.1
  (evaluated.1.1, evaluated.1.2,
    match evaluated.2 with
    | .ok (desired, _) => desired
    | .error _ => s.2.2)

/-- An error leaves the output. -/
theorem feed_runtime (s : Controlled α H) (input : CFloat α) :
    (feed s input).runtime = feedRuntime s.runtime input := by
  have hevaluated := s.engine.evaluate_toRuleEngine input s.output s.events
  have herror : (s.engine.evaluate input s.output s.events).evaluated = false →
      (s.engine.evaluate input s.output s.events).desiredOutput = s.output := by
    unfold RecordingEngine.evaluate
    split
    · exact fun _ => rfl
    split
    · exact fun _ => rfl
    split
    · exact fun _ => rfl
    · exact fun hfailed => by cases hfailed
  unfold feedRuntime Controlled.runtime
  dsimp only at hevaluated ⊢
  rw [hevaluated]
  unfold feed evaluation
  dsimp only
  cases hok : (s.engine.evaluate input s.output s.events).evaluated with
  | false => rw [if_neg Bool.false_ne_true, herror hok]
  | true => rw [if_pos rfl]

end Runs

/-- The decision is one that changes the output. -/
def switches (decision : RuleDecision) : Bool := decision == .TurnOn || decision == .TurnOff

/-- The decision of a change. -/
def switchOf (on : Bool) : RuleDecision := if on then .TurnOn else .TurnOff

variable [LinearOrder α]

/-- The engine runs an enabled rule with these thresholds. -/
structure Runs (onBelow offAbove : α) (engine : RecordingEngine α) : Prop where
  /-- The engine is configured. -/
  configured : engine.configured = true
  /-- Its rule is enabled. -/
  enabled : engine.rule.enabled = true
  /-- With this lower threshold. -/
  onBelow : engine.rule.onBelow = .finite onBelow
  /-- And with this upper one. -/
  offAbove : engine.rule.offAbove = .finite offAbove

/-- What one step reports and counts. -/
structure Reports (s : Controlled α H) (input : CFloat α) : Prop where
  /-- `TURN_ON` is reported exactly when the output goes on. -/
  turnOn : (evaluation s input).decision = .TurnOn ↔
    s.output = false ∧ (feed s input).output = true
  /-- And `TURN_OFF` when it goes off. -/
  turnOff : (evaluation s input).decision = .TurnOff ↔
    s.output = true ∧ (feed s input).output = false
  /-- The evaluation is counted. -/
  counted : (feed s input).engine.evaluationCount = s.engine.evaluationCount + 1

variable {onBelow offAbove input : α} {s : Controlled α H}

/-- What `configure` accepts with a rule that is enabled. -/
theorem runs_of_configure {rule : HysteresisRule α} {engine configured : RecordingEngine α}
    (h : engine.configure rule = .ok configured) (henabled : rule.enabled = true) :
    ∃ onBelow offAbove, rule.onBelow = .finite onBelow ∧ rule.offAbove = .finite offAbove ∧
      onBelow < offAbove ∧ Runs onBelow offAbove configured := by
  simp only [RecordingEngine.configure, RuleEngine.configure, bind_eq_ok, refuseIf_eq_ok] at h
  obtain ⟨base, ⟨_, _, _, hfinite, _, hlt, hbase⟩, hconfigured⟩ := h
  cases hbase
  cases hconfigured
  simp only [Bool.or_eq_false_iff, Bool.not_eq_false'] at hfinite hlt
  cases honBelow : rule.onBelow with
  | nonfinite =>
    rw [honBelow] at hfinite
    cases hfinite.1
  | finite low =>
    cases hoffAbove : rule.offAbove with
    | nonfinite =>
      rw [hoffAbove] at hfinite
      cases hfinite.2
    | finite high =>
      rw [honBelow, hoffAbove] at hlt
      exact ⟨low, high, rfl, rfl, of_decide_eq_true hlt, rfl, henabled, honBelow, hoffAbove⟩

/-- The decision of a rule is the response, with the name of the change. -/
theorem decision_eq {rule : HysteresisRule α} (hon : rule.onBelow = .finite onBelow)
    (hoff : rule.offAbove = .finite offAbove) (output : Bool) (input : α) :
    RuleEngine.decision rule (.finite input) output =
      (respond onBelow offAbove output input,
        if respond onBelow offAbove output input = output then .Hold
        else switchOf (respond onBelow offAbove output input)) := by
  unfold RuleEngine.decision respond
  rw [hon, hoff]
  by_cases hlow : input < onBelow
  · have hbelow : lt (.finite input) (.finite onBelow) = true := decide_eq_true hlow
    rw [if_pos hbelow, if_pos hlow]
    cases output <;> rfl
  · have hbelow : ¬lt (.finite input) (.finite onBelow) = true := by simpa [lt] using hlow
    rw [if_neg hbelow, if_neg hlow]
    by_cases hhigh : offAbove < input
    · have habove : lt (.finite offAbove) (.finite input) = true := decide_eq_true hhigh
      rw [if_pos habove, if_pos hhigh]
      cases output <;> rfl
    · have habove : ¬lt (.finite offAbove) (.finite input) = true := by simpa [lt] using hhigh
      rw [if_neg habove, if_neg hhigh, if_pos rfl]

/-- What the evaluation of a finite input leaves and reports. -/
structure Fed (onBelow offAbove : α) (s : Controlled α H) (input : α) : Prop where
  /-- The engine runs on with its rule. -/
  runs : Runs onBelow offAbove (feed s (.finite input)).engine
  /-- The output is the response of the two-point control. -/
  output : (feed s (.finite input)).output = respond onBelow offAbove s.output input
  /-- The evaluation is counted. -/
  counted : (feed s (.finite input)).engine.evaluationCount = s.engine.evaluationCount + 1
  /-- The decision names the change, if there is one. -/
  decision : (evaluation s (.finite input)).decision =
    if respond onBelow offAbove s.output input = s.output then .Hold
    else switchOf (respond onBelow offAbove s.output input)

/-- What one input does to the output, the decision and the counter. -/
theorem feed_spec (h : Runs onBelow offAbove s.engine) (input : α) :
    Fed onBelow offAbove s input := by
  have hdecided := decision_eq h.onBelow h.offAbove s.output input
  have hevaluation : evaluation s (.finite input) =
      { engine := { s.engine with
          evaluationCount := s.engine.evaluationCount + 1, lastInput := .finite input
          lastDesired := (RuleEngine.decision s.engine.rule (.finite input) s.output).1
          lastDecision := (RuleEngine.decision s.engine.rule (.finite input) s.output).2
          lastError := "" }
        events := s.events.post .RuleEvaluated s.engine.rule.id
        evaluated := true
        desiredOutput := (RuleEngine.decision s.engine.rule (.finite input) s.output).1
        decision := (RuleEngine.decision s.engine.rule (.finite input) s.output).2 } := by
    have hfinite : (CFloat.finite input).isfinite = true := rfl
    unfold evaluation RecordingEngine.evaluate
    rw [if_neg (by simp [h.configured]), if_neg (by simp [h.enabled]), if_neg (by simp [hfinite])]
  refine ⟨?_, ?_, ?_, ?_⟩
  · rw [feed, hevaluation]
    exact ⟨h.configured, h.enabled, h.onBelow, h.offAbove⟩
  · rw [feed, hevaluation]
    exact congrArg Prod.fst hdecided
  · rw [feed, hevaluation]
  · rw [hevaluation]
    exact congrArg Prod.snd hdecided

/-- The decisions that switch say where the output goes. -/
theorem switches_switchOf (on : Bool) : switches (switchOf on) = true := by
  cases on <;> rfl

/-- A step switches exactly when the output changes, and to what it changes. -/
theorem Fed.decision_eq_switchOf (h : Fed onBelow offAbove s input) (on : Bool) :
    (evaluation s (.finite input)).decision = switchOf on ↔
      s.output = !on ∧ (feed s (.finite input)).output = on := by
  rw [h.decision, h.output]
  generalize respond onBelow offAbove s.output input = next
  cases s.output <;> cases next <;> cases on <;> decide

/-- What every step of a run reports. -/
theorem reports_run (h : Runs onBelow offAbove s.engine) (inputs : List α) :
    Throughout feed Reports s (inputs.map .finite) := by
  induction inputs generalizing s with
  | nil => exact trivial
  | cons input inputs ih =>
    have hfed := feed_spec h input
    exact ⟨⟨hfed.decision_eq_switchOf true, hfed.decision_eq_switchOf false, hfed.counted⟩,
      ih hfed.runs⟩

/-- A run of the engine is a run of two-point control. -/
structure RunFed (onBelow offAbove : α) (s : Controlled α H) (inputs : List α) : Prop where
  /-- The engine runs on with its rule. -/
  runs : Runs onBelow offAbove (run feed s (inputs.map .finite)).engine
  /-- The output is where the inputs settle it. -/
  output : (run feed s (inputs.map .finite)).output = settle onBelow offAbove s.output inputs
  /-- All evaluations are counted. -/
  counted : (run feed s (inputs.map .finite)).engine.evaluationCount =
    s.engine.evaluationCount + UInt32.ofNat inputs.length
  /-- The decisions that switch are the changes of the output. -/
  decisions : (decisions s (inputs.map .finite)).filter switches =
    (changes onBelow offAbove s.output inputs).map switchOf

/-- What the inputs of a run do, one after the other. -/
theorem feed_run (h : Runs onBelow offAbove s.engine) (inputs : List α) :
    RunFed onBelow offAbove s inputs := by
  induction inputs generalizing s with
  | nil => exact ⟨h, rfl, (UInt32.add_zero _).symm, rfl⟩
  | cons input inputs ih =>
    have hfed := feed_spec h input
    have hrest := ih hfed.runs
    have hcount : (1 : UInt32) + UInt32.ofNat inputs.length = UInt32.ofNat (inputs.length + 1) := by
      rw [UInt32.ofNat_add, UInt32.add_comm]
      rfl
    refine ⟨hrest.runs, ?_, ?_, ?_⟩
    · simp only [List.map_cons, run_cons, settle]
      rw [hrest.output, hfed.output]
      rfl
    · simp only [List.map_cons, run_cons, List.length_cons]
      rw [hrest.counted, hfed.counted, UInt32.add_assoc, hcount]
    · have hdecisions := hrest.decisions
      rw [hfed.output] at hdecisions
      simp only [List.map_cons, decisions, changes, List.filter_cons, hfed.decision]
      split
      · rename_i hsame
        rw [if_neg (by simp [switches])]
        exact hdecisions
      · rw [if_pos (switches_switchOf _), List.map_cons]
        exact congrArg _ hdecisions

/-- Between going on and going off again an input is above the band. -/
theorem exists_above_between (h : Runs onBelow offAbove s.engine) {between : List α}
    {first last : α} (hfirst : (evaluation s (.finite first)).decision = .TurnOn)
    (hlast : (evaluation (run feed s ((first::between).map .finite)) (.finite last)).decision =
      .TurnOff) : ∃ input ∈ between ++ [last], offAbove < input := by
  have hon := ((feed_spec h first).decision_eq_switchOf true).mp hfirst
  have hstart := feed_spec h first
  have hrun := feed_run hstart.runs between
  have hoff := ((feed_spec hrun.runs last).decision_eq_switchOf false).mp hlast
  have hsettled : settle onBelow offAbove true (between ++ [last]) = false := by
    have hwhole := (feed_run hstart.runs (between ++ [last])).output
    rw [hon.2] at hwhole
    rw [← hwhole]
    simp only [List.map_append, run_append]
    exact hoff.2
  exact exists_above_of_settle hsettled

/-- What the output is after a run, in terms of the last input outside of the band. -/
structure Follows (onBelow offAbove : α) (inputs : List α) (before after : Bool) : Prop where
  /-- The last input outside of the band was below it: the output is on. -/
  below : ∀ input, lastOutside onBelow offAbove inputs = some input → input < onBelow →
    after = true
  /-- It was above: the output is off. -/
  above : ∀ input, lastOutside onBelow offAbove inputs = some input → offAbove < input →
    after = false
  /-- There was none: the output is as before. -/
  inside : lastOutside onBelow offAbove inputs = none → after = before

omit [Zero α] in
/-- The settled output follows the inputs. -/
theorem follows_settle (h : onBelow < offAbove) (inputs : List α) (output : Bool) :
    Follows onBelow offAbove inputs output (settle onBelow offAbove output inputs) := by
  refine ⟨?_, ?_, ?_⟩
  · intro input hlast hbelow
    rw [settle_eq, hlast]
    exact decide_eq_true hbelow
  · intro input hlast habove
    rw [settle_eq, hlast]
    exact decide_eq_false (not_lt_of_gt (h.trans habove))
  · intro hnone
    rw [settle_eq, hnone]

/-- A rule that `configure` accepts and that is enabled controls its output by the
last input outside of its band, reports every change of the output and no other,
and counts its evaluations. What is no evaluation changes nothing. -/
theorem hysteresis_run {rule : HysteresisRule α} {engine configured : RecordingEngine α}
    (hconfigure : engine.configure rule = .ok configured) (henabled : rule.enabled = true)
    (events : EventBus H) (output : Bool) (inputs : List α) :
    ∃ onBelow offAbove, rule.onBelow = .finite onBelow ∧ rule.offAbove = .finite offAbove ∧
      (let s : Controlled α H := { engine := configured, events, output }
      Follows onBelow offAbove inputs output (run feed s (inputs.map .finite)).output ∧
      Throughout feed Reports s (inputs.map .finite) ∧
      (run feed s (inputs.map .finite)).engine.evaluationCount =
        configured.evaluationCount + UInt32.ofNat inputs.length ∧
      ((decisions s (inputs.map .finite)).filter switches).IsChain (· ≠ ·) ∧
      ∀ before first between last after, inputs = before ++ first::between ++ last::after →
        (evaluation (run feed s (before.map .finite)) (.finite first)).decision = .TurnOn →
        (evaluation (run feed s ((before ++ first::between).map .finite))
          (.finite last)).decision = .TurnOff →
        ∃ input ∈ between ++ [last], offAbove < input) ∧
    ∀ (other : RecordingEngine α) (input : CFloat α) (current : Bool),
      (other.configured = false ∨ other.rule.enabled = false ∨ input.isfinite = false) →
      (other.evaluate input current events).desiredOutput = current ∧
        (other.evaluate input current events).engine.evaluationCount = other.evaluationCount ∧
        (other.evaluate input current events).engine.lastInput = other.lastInput := by
  obtain ⟨onBelow, offAbove, hon, hoff, hlt, hruns⟩ := runs_of_configure hconfigure henabled
  refine ⟨onBelow, offAbove, hon, hoff, ?_,
    fun other input current h => other.evaluate_unchanged h current events⟩
  intro s
  have hs : Runs onBelow offAbove s.engine := hruns
  have hrun := feed_run hs inputs
  refine ⟨?_, reports_run hs inputs, hrun.counted, ?_, ?_⟩
  · rw [hrun.output]
    exact follows_settle hlt inputs output
  · have halternate := (changes_alternate onBelow offAbove s.output inputs).tail
    rw [hrun.decisions]
    exact List.isChain_map_of_isChain switchOf (by decide) halternate
  · intro before first between last after _ hfirst hlast
    rw [List.map_append, run_append] at hlast
    exact exists_above_between (feed_run hs before).runs hfirst hlast

/-- The rule runtime's engine controls its output by the last input outside of the band. -/
theorem runtime_follows {rule : HysteresisRule α} {engine configured : RuleEngine α}
    (hconfigure : engine.configure rule = .ok configured) (henabled : rule.enabled = true)
    (events : EventBus H) (output : Bool) (inputs : List α) :
    ∃ onBelow offAbove, rule.onBelow = .finite onBelow ∧ rule.offAbove = .finite offAbove ∧
      Follows onBelow offAbove inputs output
        (run feedRuntime (configured, events, output) (inputs.map .finite)).2.2 := by
  have hrecording : RecordingEngine.configure rule { engine with } =
      .ok ({ configured with } : RecordingEngine α) := by
    unfold RecordingEngine.configure
    rw [hconfigure]
    rfl
  obtain ⟨onBelow, offAbove, hon, hoff, hlt, hruns⟩ := runs_of_configure hrecording henabled
  refine ⟨onBelow, offAbove, hon, hoff, ?_⟩
  let s : Controlled α H := { engine := { configured with }, events, output }
  have hview : (run feed s (inputs.map .finite)).runtime =
      run feedRuntime s.runtime (inputs.map .finite) :=
    view_run (I := fun _ : Controlled α H => True) (fun _ _ _ => trivial)
      (fun s input _ => feed_runtime s input) trivial (inputs.map .finite)
  have houtput : (run feedRuntime (configured, events, output) (inputs.map .finite)).2.2 =
      (run feed s (inputs.map .finite)).output :=
    (congrArg (fun t : RuleEngine α × EventBus H × Bool => t.2.2) hview).symm
  rw [houtput, (feed_run (s := s) hruns inputs).output]
  exact follows_settle hlt inputs output

/-- A rule with the band from 18 to 22. -/
def sampleRule : HysteresisRule ℕ :=
  { id := "heating", enabled := true, onBelow := .finite 18, offAbove := .finite 22 }

/-- The engine with the sample rule, and an output that is off. -/
def sampleControlled : Controlled ℕ ℕ where
  engine := { rule := sampleRule, configured := true }
  events := {}
  output := false

/-- On at 10, kept at 20, off at 30. -/
theorem hysteresis_sample :
    (run feed sampleControlled ([10, 20].map .finite)).output = true ∧
      (run feed sampleControlled ([10, 20, 30].map .finite)).output = false := by
  have hconfigure : ({} : RecordingEngine ℕ).configure sampleRule =
      .ok sampleControlled.engine := rfl
  constructor
  · obtain ⟨onBelow, offAbove, hon, hoff, ⟨hfollows, _⟩, _⟩ :=
      hysteresis_run hconfigure rfl sampleControlled.events false [10, 20]
    cases hon
    cases hoff
    exact hfollows.below 10 (by decide) (by decide)
  · obtain ⟨onBelow, offAbove, hon, hoff, ⟨hfollows, _⟩, _⟩ :=
      hysteresis_run hconfigure rfl sampleControlled.events false [10, 20, 30]
    cases hon
    cases hoff
    exact hfollows.above 30 (by decide) (by decide)

end ProjEsp32.HysteresisRuns
