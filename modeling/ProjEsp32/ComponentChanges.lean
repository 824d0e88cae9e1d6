import ProjEsp32.ChangeNotification
import ProjEsp32.ComponentReports

/-!
# What the posts say

The posts about a component are its successive distinct states and healths, and its
error count is the number of those that are errors; the posts of the supervisor are
its successive distinct states.
-/

namespace ProjEsp32.ComponentReports

open ArduinoText ChangeNotification EventDispatch HealthSupervisor MachineEntries TransitionRuns
open RuntimeCore (HealthState)

variable {H S σ : Type}

/-- What posts itself: the components, each with its own id. -/
inductive Source where
  | connectivity
  | temperature
  | output (output : Output)
  deriving DecidableEq

/-- The identifier that a source posts under. -/
def Source.id : Source → String
  | .connectivity => Connectivity.kind.id
  | .temperature => Input.kind.id
  | .output o => (Actuator.kind o).id

/-- What the events are about. -/
inductive Subject where
  | state (source : Source)
  | health (source : Source)
  | supervisor
  deriving DecidableEq

/-- The type of the events about it. -/
def Subject.type : Subject → ℕ
  | .state _ => ComponentStateChanged
  | .health _ => ComponentHealthChanged
  | .supervisor => SupervisorStateChanged

/-- Their source. -/
def Subject.source : Subject → String
  | .state source => source.id
  | .health source => source.id
  | .supervisor => "supervisor"

/-- What the posts of a component are about, whatever its kind. -/
structure Shown where
  /-- The number of the state. -/
  state : ℤ
  /-- The health, with the fault code: another one is a change as well. -/
  health : ℤ × String
  /-- The errors so far, in 32 bits. -/
  errorCount : ℕ

/-- What a component shows. -/
def Component.shown (kind : Kind σ) (c : Component σ) : Shown where
  state := kind.stateValue c.state
  health := (healthValue c.health.state, c.health.faultCode)
  errorCount := c.health.errorCount

/-- The state of the supervisor; that it has started makes a change as well. -/
def supervisorValue (s : Supervisor) : ℤ × String :=
  (s.state.value, if s.started then "started" else "")

/-- What a source of the platform shows. -/
def Platform.shown : Source → Platform H S → Shown
  | .connectivity, p => p.connectivity.shown Connectivity.kind
  | .temperature, p => p.temperature.component.shown Input.kind
  | .output o, p => (p.outputs o).shown (Actuator.kind o)

/-- What an observer can learn of a subject, with what else makes a change of it. -/
def Platform.value : Subject → Platform H S → ℤ × String
  | .state source, p => ((p.shown source).state, "")
  | .health source, p => (p.shown source).health
  | .supervisor, p => supervisorValue p.supervisor

/-- The values posted about a subject. -/
def reported (type : ℕ) (source : String) (posts : List Post) : List ℤ :=
  (posts.filter fun post => post.type = type ∧ post.source = some source).map (·.value)

/-- A posted health that counts as an error. -/
def isErrorValue (kind : Kind σ) (value : ℤ) : Bool :=
  [HealthState.Ok, .Degraded, .Fault, .Recovering, .Disabled].any fun health =>
    decide (healthValue health = value) && kind.isError health

/-- The errors among the posted healths of a component. -/
def Source.isErrorValue : Source → ℤ → Bool
  | .connectivity => ComponentReports.isErrorValue Connectivity.kind
  | .temperature => ComponentReports.isErrorValue Input.kind
  | .output o => ComponentReports.isErrorValue (Actuator.kind o)

/-- The values reported in appended posts are those of the one before those of the other. -/
theorem reported_append (type : ℕ) (source : String) (first second : List Post) :
    reported type source (first ++ second) =
      reported type source first ++ reported type source second := by
  simp only [reported, List.filter_append, List.map_append]

/-- Posts of another source or type say nothing about a subject. -/
theorem reported_eq_nil {type : ℕ} {source : String} {posts : List Post}
    (h : ∀ post ∈ posts, post.type = type → post.source ≠ some source) :
    reported type source posts = [] := by
  unfold reported
  rw [List.map_eq_nil_iff, List.filter_eq_nil_iff]
  intro post hpost hmatch
  rw [decide_eq_true_eq] at hmatch
  exact h post hpost hmatch.1 hmatch.2

/-- Different healths are posted in different values. -/
theorem healthValue_injective : Function.Injective healthValue := by
  intro a b h
  cases a <;> cases b <;> first | rfl | cases h

/-- The error values are the values of errors. -/
theorem isErrorValue_healthValue (kind : Kind σ) (health : HealthState) :
    isErrorValue kind (healthValue health) = kind.isError health := by
  unfold isErrorValue
  cases health <;> simp [healthValue]

/-! ### One component -/

/-- The posts of a call report the change of one component, and nothing else. -/
structure Reports (id : String) (isError : ℤ → Bool) (before after : Shown) (posts : List Post) :
    Prop where
  /-- The posts are the component's own. -/
  own : ∀ post ∈ posts, post.source = some id
  /-- None of them is one of the supervisor. -/
  types : ∀ post ∈ posts, post.type ≠ SupervisorStateChanged
  /-- The state is posted when it is another one. -/
  state : reported ComponentStateChanged id posts =
    noted Prod.fst (before.state, "") (after.state, "")
  /-- And so is the health. -/
  health : reported ComponentHealthChanged id posts = noted Prod.fst before.health after.health
  /-- Each health that is an error is counted. -/
  errors : ∀ count, before.errorCount = count % 2^32 → after.errorCount =
    (count + (reported ComponentHealthChanged id posts).countP isError) % 2^32

/-- A call that changes nothing and posts nothing. -/
theorem Reports.refl (id : String) (isError : ℤ → Bool) (c : Shown) :
    Reports id isError c c [] where
  own := by simp
  types := by simp
  state := (if_pos rfl).symm
  health := (if_pos rfl).symm
  errors := fun count hcount => hcount

/-- Another post of the component says nothing about its state and its health. -/
theorem Reports.append {id : String} {isError : ℤ → Bool} {before after : Shown}
    {posts : List Post} (h : Reports id isError before after posts) {post : Post}
    (hsource : post.source = some id) (htype : post.type = InputValueChanged) :
    Reports id isError before after (posts ++ [post]) := by
  have hnothing (type : ℕ) (hother : type ≠ InputValueChanged) :
      reported type id (posts ++ [post]) = reported type id posts := by
    have hsilent : reported type id [post] = [] := by
      refine reported_eq_nil fun other hmem hsame => ?_
      rw [List.mem_singleton.mp hmem, htype] at hsame
      exact absurd hsame.symm hother
    rw [reported_append, hsilent, List.append_nil]
  constructor
  · intro other hmem
    rcases List.mem_append.mp hmem with hold | hnew
    · exact h.own other hold
    · rw [List.mem_singleton.mp hnew]
      exact hsource
  · intro other hmem
    rcases List.mem_append.mp hmem with hold | hnew
    · exact h.types other hold
    · rw [List.mem_singleton.mp hnew, htype]
      decide
  · rw [hnothing _ (by decide)]
    exact h.state
  · rw [hnothing _ (by decide)]
    exact h.health
  · rw [hnothing _ (by decide)]
    exact h.errors

section transition

variable [DecidableEq σ] {kind : Kind σ} {now : ℕ} {nextState : σ} {nextHealth : HealthState}
  {nextFault : String} {c : Component σ}

/-- The state that a transition posts. -/
theorem reported_state_posts (hstate : Function.Injective kind.stateValue) :
    reported ComponentStateChanged kind.id (c.posts kind now nextState nextHealth nextFault) =
      noted Prod.fst (kind.stateValue c.state, "") (kind.stateValue nextState, "") := by
  have hhealth : reported ComponentStateChanged kind.id
      (if nextHealth != c.health.state || nextFault != c.health.faultCode then
        [⟨ComponentHealthChanged, some kind.id, healthValue nextHealth, now % 2^32⟩] else []) =
      [] := by
    refine reported_eq_nil fun post hpost htype => ?_
    split at hpost
    · rw [List.mem_singleton.mp hpost] at htype
      cases htype
    · exact absurd hpost List.not_mem_nil
  unfold Component.posts noted
  rw [reported_append, hhealth, List.append_nil]
  by_cases hsame : nextState = c.state
  · rw [if_neg (by simpa using hsame), if_pos (by rw [hsame])]
    rfl
  · have hvalue : (kind.stateValue nextState, "") ≠ (kind.stateValue c.state, "") :=
      fun heq => hsame (hstate (congrArg Prod.fst heq))
    rw [if_pos (by simpa using hsame), if_neg hvalue]
    simp [reported]

/-- The health that a transition posts. -/
theorem reported_health_posts :
    reported ComponentHealthChanged kind.id (c.posts kind now nextState nextHealth nextFault) =
      if nextHealth != c.health.state || nextFault != c.health.faultCode then
        [healthValue nextHealth] else [] := by
  have hstate : reported ComponentHealthChanged kind.id
      (if nextState != c.state then
        [⟨ComponentStateChanged, some kind.id, kind.stateValue nextState, now % 2^32⟩] else []) =
      [] := by
    refine reported_eq_nil fun post hpost htype => ?_
    split at hpost
    · rw [List.mem_singleton.mp hpost] at htype
      cases htype
    · exact absurd hpost List.not_mem_nil
  unfold Component.posts
  rw [reported_append, hstate, List.nil_append]
  split
  · simp [reported]
  · rfl

omit [DecidableEq σ] in
/-- A transition posts a health if and only if its pair is new. -/
theorem healthChanged_iff :
    (nextHealth != c.health.state || nextFault != c.health.faultCode) = true ↔
      (healthValue nextHealth, nextFault) ≠ (healthValue c.health.state, c.health.faultCode) := by
  have hpair : (healthValue nextHealth, nextFault) =
      (healthValue c.health.state, c.health.faultCode) ↔
        nextHealth = c.health.state ∧ nextFault = c.health.faultCode := by
    rw [Prod.mk.injEq, healthValue_injective.eq_iff]
  rw [Ne, hpair, Bool.or_eq_true, bne_iff_ne, bne_iff_ne]
  tauto

omit [DecidableEq σ] in
/-- The pair after a transition is the one that is asked for. -/
theorem healthAfter_pair (kind : Kind σ) (now : ℕ) (nextHealth : HealthState)
    (nextFault : String) (c : Component σ) :
    (healthValue (c.healthAfter kind now nextHealth nextFault).state,
      (c.healthAfter kind now nextHealth nextFault).faultCode) =
        (healthValue nextHealth, nextFault) := by
  simp only [Component.healthAfter]
  split
  · rfl
  · split <;> rfl

/-- A transition counts the errors that it posts. -/
theorem errorCount_healthAfter (hok : kind.isError .Ok = false) {count : ℕ}
    (hcount : c.health.errorCount = count % 2^32) :
    (c.healthAfter kind now nextHealth nextFault).errorCount =
      (count + (reported ComponentHealthChanged kind.id
        (c.posts kind now nextState nextHealth nextFault)).countP (isErrorValue kind)) % 2^32 := by
  rw [reported_health_posts]
  unfold Component.healthAfter
  by_cases hchanged : (nextHealth != c.health.state || nextFault != c.health.faultCode) = true
  · rw [if_pos hchanged, List.countP_singleton, isErrorValue_healthValue]
    by_cases hnext : nextHealth = .Ok
    · rw [hnext, hok]
      simpa using hcount
    · cases herror : kind.isError nextHealth
      · simp [hnext, hcount]
      · simp [hnext, hchanged, hcount]
  · rw [if_neg hchanged, List.countP_nil, Nat.add_zero]
    by_cases hnext : nextHealth = .Ok
    · simp [hnext, hcount]
    · simp [hnext, hchanged, hcount]

end transition

variable [DecidableEq σ]

/-- A transition reports itself: a new state, a new health, and an error when it is one. -/
theorem reports_transitionTo (kind : Kind σ) (hstate : Function.Injective kind.stateValue)
    (hok : kind.isError .Ok = false) (now : ℕ) (nextState : σ) (nextHealth : HealthState)
    (faultCode : String) (c : Component σ) :
    Reports kind.id (isErrorValue kind) (c.shown kind)
      ((c.transitionTo kind now nextState nextHealth faultCode).1.shown kind)
      (c.transitionTo kind now nextState nextHealth faultCode).2 := by
  have hmem : ∀ post ∈ c.posts kind now nextState nextHealth (cString faultCode),
      post.source = some kind.id ∧ post.type ≠ SupervisorStateChanged := by
    intro post hpost
    rcases List.mem_append.mp hpost with hpost | hpost
    all_goals
      split at hpost
      · rw [List.mem_singleton.mp hpost]
        exact ⟨rfl, fun h => by cases h⟩
      · exact absurd hpost List.not_mem_nil
  constructor
  · exact fun post hpost => (hmem post hpost).1
  · exact fun post hpost => (hmem post hpost).2
  · exact reported_state_posts hstate
  · have hposts : reported ComponentHealthChanged kind.id
        (c.posts kind now nextState nextHealth (cString faultCode)) =
          noted Prod.fst (healthValue c.health.state, c.health.faultCode)
            (healthValue nextHealth, cString faultCode) := by
      rw [reported_health_posts]
      unfold noted
      by_cases hchanged : (healthValue nextHealth, cString faultCode) =
          (healthValue c.health.state, c.health.faultCode)
      · rw [if_pos hchanged, if_neg fun hnew => healthChanged_iff.mp hnew hchanged]
      · rw [if_neg hchanged, if_pos (healthChanged_iff.mpr hchanged)]
    rw [← healthAfter_pair kind now nextHealth (cString faultCode) c] at hposts
    exact hposts
  · exact fun count hcount => errorCount_healthAfter hok hcount

/-- The connectivity component reports its samples. -/
theorem reports_sample (now : ℕ) (wifiUp configured mqttUp : Bool)
    (c : Component Connectivity.State) :
    Reports Connectivity.kind.id (isErrorValue Connectivity.kind) (c.shown Connectivity.kind)
      ((Connectivity.sample now wifiUp configured mqttUp c).1.shown Connectivity.kind)
      (Connectivity.sample now wifiUp configured mqttUp c).2 := by
  have hstate : Function.Injective Connectivity.kind.stateValue := by
    intro a b h
    cases a <;> cases b <;> first | rfl | cases h
  have htransition (nextState : Connectivity.State) (nextHealth : HealthState)
      (faultCode : String) :=
    reports_transitionTo Connectivity.kind hstate rfl now nextState nextHealth faultCode c
  unfold Connectivity.sample
  split
  · exact htransition _ _ _
  · split
    · exact htransition _ _ _
    · split
      · exact htransition _ _ _
      · exact htransition _ _ _

/-- The input reports its transitions. -/
theorem reports_input (now : ℕ) (nextState : VirtualComponents.VirtualInput.State)
    (nextHealth : HealthState) (faultCode : String) (input : Input) :
    Reports Input.kind.id (isErrorValue Input.kind) (input.component.shown Input.kind)
      ((Input.transitionTo now nextState nextHealth faultCode input).1.component.shown Input.kind)
      (Input.transitionTo now nextState nextHealth faultCode input).2 := by
  have hstate : Function.Injective Input.kind.stateValue := by
    intro a b h
    cases a <;> cases b <;> first | rfl | cases h
  exact reports_transitionTo Input.kind hstate rfl now nextState nextHealth faultCode
    input.component

/-- An actuator reports its transitions. -/
theorem reports_actuator (o : Output) (now : ℕ) (nextState : Actuator.State)
    (nextHealth : HealthState) (faultCode : String) (c : Component Actuator.State) :
    Reports (Actuator.kind o).id (isErrorValue (Actuator.kind o)) (c.shown (Actuator.kind o))
      ((Actuator.transitionTo o now nextState nextHealth faultCode c).1.shown (Actuator.kind o))
      (Actuator.transitionTo o now nextState nextHealth faultCode c).2 := by
  have hstate : Function.Injective (Actuator.kind o).stateValue := by
    intro a b h
    cases o <;> cases a <;> cases b <;> first | rfl | cases h
  have hok : (Actuator.kind o).isError .Ok = false := by
    cases o <;> rfl
  exact reports_transitionTo (Actuator.kind o) hstate hok now nextState nextHealth faultCode c

/-! ### The platform -/

/-- The sources of a post that is not about a rule. -/
def Known (post : Post) : Prop :=
  post.type = RuleEvaluated ∨ (∃ source : Source, post.source = some source.id) ∨
    post.source = some "supervisor"

/-- A call adds posts, which report what it changes of each subject and count the errors. -/
structure Posted (before after : Platform H S) (posts : List Post) : Prop where
  /-- The posts are sent behind the earlier ones. -/
  sent : after.posts = before.posts ++ posts
  /-- They are about what is known. -/
  known : ∀ post ∈ posts, Known post
  /-- Of each subject the changes are posted, and nothing else. -/
  subjects : ∀ subject : Subject, reported subject.type subject.source posts =
    noted Prod.fst (before.value subject) (after.value subject)
  /-- The errors that are posted are counted. -/
  errors : ∀ (source : Source) (count : ℕ), (before.shown source).errorCount = count % 2^32 →
    (after.shown source).errorCount = (count +
      (reported ComponentHealthChanged source.id posts).countP source.isErrorValue) % 2^32

/-- Different sources post under different identifiers. -/
theorem source_id_injective : Function.Injective Source.id := by
  intro a b h
  rcases a with _ | _ | a <;> rcases b with _ | _ | b
  all_goals
    first
    | rfl
    | cases a <;> cases b <;> first | rfl | exact absurd h (by decide)
    | cases a <;> exact absurd h (by decide)
    | cases b <;> exact absurd h (by decide)
    | exact absurd h (by decide)

/-- No source posts under the identifier of the supervisor. -/
theorem source_id_ne_supervisor (source : Source) : source.id ≠ "supervisor" := by
  rcases source with _ | _ | o
  · decide
  · decide
  · cases o <;> decide

/-- Posts of one source say nothing about the others. -/
theorem reported_other {id source : String} {posts : List Post}
    (hown : ∀ post ∈ posts, post.source = some id) (hne : source ≠ id) (type : ℕ) :
    reported type source posts = [] := by
  refine reported_eq_nil fun post hpost _ hsource => ?_
  rw [hown post hpost, Option.some.injEq] at hsource
  exact hne hsource.symm

/-- A post changes nothing that a source shows. -/
theorem shown_send (posts : List Post) (p : Platform H S) (source : Source) :
    (p.send posts).shown source = p.shown source := by
  cases source <;> rfl

/-- A post changes no value that is reported. -/
theorem value_send (posts : List Post) (p : Platform H S) (subject : Subject) :
    (p.send posts).value subject = p.value subject := by
  cases subject with
  | state source => exact congrArg (fun c : Shown => (c.state, "")) (shown_send posts p source)
  | health source => exact congrArg Shown.health (shown_send posts p source)
  | supervisor => rfl

/-- A call of a component posts what it changes of it, and changes nothing else. -/
theorem posted_of_reports {before after : Platform H S} {posts : List Post} (source : Source)
    (h : Reports source.id source.isErrorValue (before.shown source) (after.shown source) posts)
    (hposts : after.posts = before.posts) (hsupervisor : after.supervisor = before.supervisor)
    (hother : ∀ other, other ≠ source → after.shown other = before.shown other) :
    Posted before (after.send posts) posts := by
  have hsilent {other : Source} (hne : other ≠ source) (type : ℕ) :
      reported type other.id posts = [] :=
    reported_other h.own (fun hid => hne (source_id_injective hid)) type
  refine ⟨congrArg (· ++ posts) hposts, fun post hpost => .inr (.inl ⟨source, h.own post hpost⟩),
    fun subject => ?_, fun other count hcount => ?_⟩
  · rw [value_send]
    cases subject with
    | state other =>
      by_cases hsame : other = source
      · subst hsame
        exact h.state
      · have hkept : after.value (.state other) = before.value (.state other) :=
          congrArg (fun c : Shown => (c.state, "")) (hother other hsame)
        rw [hkept]
        exact (hsilent hsame ComponentStateChanged).trans (if_pos rfl).symm
    | health other =>
      by_cases hsame : other = source
      · subst hsame
        exact h.health
      · have hkept : after.value (.health other) = before.value (.health other) :=
          congrArg Shown.health (hother other hsame)
        rw [hkept]
        exact (hsilent hsame ComponentHealthChanged).trans (if_pos rfl).symm
    | supervisor =>
      have hnothing : reported SupervisorStateChanged "supervisor" posts = [] :=
        reported_eq_nil fun post hpost htype => absurd htype (h.types post hpost)
      have hkept : after.value .supervisor = before.value .supervisor := by
        simp only [Platform.value, hsupervisor]
      rw [hkept]
      exact hnothing.trans (if_pos rfl).symm
  · rw [shown_send]
    by_cases hsame : other = source
    · subst hsame
      exact h.errors count hcount
    · rw [hsilent hsame ComponentHealthChanged, hother other hsame, List.countP_nil, Nat.add_zero]
      exact hcount

/-! ### The supervisor -/

/-- The supervisor's copy is kept, and before `begin` it is as it was constructed. -/
structure Kept (s : Supervisor) : Prop where
  /-- The copy is the state of the machine. -/
  mirrored : Mirrored s
  /-- Before `begin` nothing has happened. -/
  waiting : s.started = false → s.state = .Initializing ∧ s.lastTransitionMs = 0

/-- A call of the supervisor posts the change of its state, and nothing else. -/
def Supervised (s t : Supervisor) : Prop :=
  ∃ posts, t.posts = s.posts ++ posts ∧ (∀ post ∈ posts, post.source = some "supervisor") ∧
    reported SupervisorStateChanged "supervisor" posts =
      noted Prod.fst (supervisorValue s) (supervisorValue t)

/-- A supervisor that does nothing has posted nothing. -/
theorem supervised_refl (s : Supervisor) : Supervised s s :=
  ⟨[], (List.append_nil _).symm, by simp, (if_pos rfl).symm⟩

/-- One post, of a state that the value of the supervisor changes to. -/
theorem supervised_of_post {s t : Supervisor} {now : ℕ}
    (hposts : t.posts = s.posts ++ [statePost now t.state])
    (hvalue : supervisorValue t ≠ supervisorValue s) : Supervised s t := by
  refine ⟨[statePost now t.state], hposts, ?_, ?_⟩
  · intro post hpost
    rw [List.mem_singleton.mp hpost]
    rfl
  · unfold noted
    rw [if_neg hvalue]
    simp [reported, statePost, supervisorValue]

/-- What the start of the supervisor posts and keeps. -/
theorem begin_spec {machines : EntryMachines SupervisorState EventId}
    (hmachines : machines.Documented) {s : Supervisor} (hs : Kept s) (now : ℕ) :
    Kept (s.begin machines now) ∧ Supervised s (s.begin machines now) := by
  obtain ⟨hmirrored, hstarted⟩ := begin_mirrored now hmachines hs.mirrored
  refine ⟨⟨hmirrored, fun hwaiting => absurd (hstarted.symm.trans hwaiting) nofun⟩, ?_⟩
  by_cases hbegun : s.started = true
  · have hsame : s.begin machines now = s := if_pos hbegun
    rw [hsame]
    exact supervised_refl s
  · have hwaiting : s.started = false := Bool.eq_false_iff.mpr hbegun
    obtain ⟨hstate, hlast⟩ := hs.waiting hwaiting
    have hrun : s.machine.initialized = false := hs.mirrored.initialized.trans hwaiting
    have hcurrent : s.machine.current = s.state := hs.mirrored.current
    have hbegin : s.begin machines now =
        ({ s with started := true, machine := { s.machine with initialized := true } } :
          Supervisor).setState now s.machine.current := by
      unfold Supervisor.begin
      rw [if_neg hbegun, hmachines.first s.machine hrun]
      rfl
    have hposts : (s.begin machines now).posts =
        s.posts ++ [statePost now (s.begin machines now).state] := by
      rw [hbegin, hcurrent]
      simp [Supervisor.setState, hlast]
    refine supervised_of_post hposts fun hvalue => ?_
    have hkeyword := congrArg Prod.snd hvalue
    simp only [supervisorValue, hstarted, hwaiting, if_true, Bool.false_eq_true,
      if_false] at hkeyword
    exact absurd hkeyword (by decide)

/-- Different states of the supervisor are posted in different values. -/
theorem state_value_injective : Function.Injective SupervisorState.value := by
  intro a b h
  cases a <;> cases b <;> first | rfl | cases h

/-- What an evaluation of the supervisor posts and keeps. -/
theorem evaluate_supervised {machines : EntryMachines SupervisorState EventId}
    (hmachines : machines.Documented) {s : Supervisor} (hs : Kept s) (now : ℕ)
    (registry : ComponentRegistry) :
    Kept (s.evaluate machines now registry) ∧
      Supervised s (s.evaluate machines now registry) := by
  obtain ⟨hmirrored, hposts, hstarted⟩ := evaluate_kept hmachines hs.mirrored now registry
  constructor
  · refine ⟨hmirrored, fun hwaiting => ?_⟩
    rw [hstarted] at hwaiting
    rw [evaluate_of_not_started hwaiting]
    exact hs.waiting hwaiting
  · by_cases hsame : (s.evaluate machines now registry).state = s.state
    · refine ⟨[], ?_, by simp, ?_⟩
      · rw [List.append_nil]
        exact hposts.trans (if_pos hsame)
      · refine (if_pos ?_).symm
        unfold supervisorValue
        rw [hsame, hstarted]
    · refine supervised_of_post (hposts.trans (if_neg hsame)) fun hvalue => ?_
      exact hsame (state_value_injective (congrArg Prod.fst hvalue))

/-- The new posts of the supervisor are sent. -/
theorem posted_supervise {p : Platform H S} {after : Supervisor}
    (h : Supervised p.supervisor after) :
    ∃ posts, Posted p (p.supervise after) posts := by
  obtain ⟨posts, hposts, hown, hvalue⟩ := h
  have hdrop : after.posts.drop p.supervisor.posts.length = posts := by
    rw [hposts, List.drop_left]
  have hsupervise : p.supervise after = ({ p with supervisor := after }).send posts := by
    unfold Platform.supervise
    rw [hdrop]
  have hsilent (source : Source) (type : ℕ) : reported type source.id posts = [] :=
    reported_other hown (source_id_ne_supervisor source) type
  have hshown (source : Source) :
      ({ p with supervisor := after } : Platform H S).shown source = p.shown source := by
    cases source <;> rfl
  rw [hsupervise]
  refine ⟨posts, rfl, fun post hpost => .inr (.inr (hown post hpost)), fun subject => ?_,
    fun source count hcount => ?_⟩
  · rw [value_send]
    cases subject with
    | state source =>
      simp only [Platform.value, hshown]
      exact (hsilent source ComponentStateChanged).trans (if_pos rfl).symm
    | health source =>
      simp only [Platform.value, hshown]
      exact (hsilent source ComponentHealthChanged).trans (if_pos rfl).symm
    | supervisor => exact hvalue
  · rw [shown_send, hshown, hsilent source ComponentHealthChanged, List.countP_nil, Nat.add_zero]
    exact hcount

/-! ### Runs -/

/-- A call that changes nothing that is reported posts nothing, or other things. -/
theorem posted_of_silent {before after : Platform H S} {posts : List Post}
    (hposts : after.posts = before.posts ++ posts) (htypes : ∀ post ∈ posts,
      post.type = RuleEvaluated) (hshown : ∀ source, after.shown source = before.shown source)
    (hsupervisor : after.supervisor = before.supervisor) : Posted before after posts := by
  have hsilent (type : ℕ) (source : String) (hother : type ≠ RuleEvaluated) :
      reported type source posts = [] := by
    refine reported_eq_nil fun post hpost htype => ?_
    exact absurd (htype.symm.trans (htypes post hpost)) hother
  refine ⟨hposts, fun post hpost => .inl (htypes post hpost), fun subject => ?_,
    fun source count hcount => ?_⟩
  · have hvalue : after.value subject = before.value subject := by
      cases subject <;> simp only [Platform.value, hshown, hsupervisor]
    have htype : subject.type ≠ RuleEvaluated := by
      cases subject <;> exact fun h => by cases h
    rw [hvalue, hsilent subject.type subject.source htype]
    exact (if_pos rfl).symm
  · rw [hshown, hsilent ComponentHealthChanged source.id (by decide), List.countP_nil,
      Nat.add_zero]
    exact hcount

/-- A call of the input. -/
theorem posted_setInput (p : Platform H S) {changed : Input × List Post}
    (h : Reports Input.kind.id (isErrorValue Input.kind) (p.temperature.component.shown Input.kind)
      (changed.1.component.shown Input.kind) changed.2) :
    Posted p (p.setInput changed) changed.2 := by
  refine posted_of_reports .temperature h rfl rfl fun other hother => ?_
  cases other with
  | temperature => exact absurd rfl hother
  | connectivity => rfl
  | output o => rfl

/-- A call of an actuator. -/
theorem posted_setOutput (p : Platform H S) (o : Output)
    {changed : Component Actuator.State × List Post}
    (h : Reports (Actuator.kind o).id (isErrorValue (Actuator.kind o))
      ((p.outputs o).shown (Actuator.kind o)) (changed.1.shown (Actuator.kind o)) changed.2) :
    Posted p (p.setOutput o changed) changed.2 := by
  have hset : ({ p with outputs := Function.update p.outputs o changed.1 } :
      Platform H S).shown (.output o) = changed.1.shown (Actuator.kind o) := by
    simp [Platform.shown]
  refine posted_of_reports (.output o) (by rw [hset]; exact h) rfl rfl fun other hother => ?_
  cases other with
  | temperature => rfl
  | connectivity => rfl
  | output other =>
    have hne : other ≠ o := fun hsame => hother (congrArg Source.output hsame)
    simp [Platform.shown, Function.update_of_ne hne]

variable [DecidableEq H] {machines : EntryMachines SupervisorState EventId}
  (react : H → Event → S → S)

/-- The step lemma: every call posts what it changes. -/
theorem step_posted (hmachines : machines.Documented) {p : Platform H S} (hp : Kept p.supervisor)
    (label : Label H) :
    Kept (step machines react p label).supervisor ∧
      ∃ posts, Posted p (step machines react p label) posts := by
  cases label with
  | sample now wifiUp configured mqttUp =>
    refine ⟨hp, _, posted_of_reports .connectivity
      (reports_sample now wifiUp configured mqttUp p.connectivity) rfl rfl fun other hother => ?_⟩
    cases other with
    | connectivity => exact absurd rfl hother
    | temperature => rfl
    | output o => rfl
  | setValue now milliValue =>
    refine ⟨hp, _, posted_setInput p ?_⟩
    cases milliValue with
    | none => exact .refl _ _ _
    | some milliValue => exact (reports_input now .Ready .Ok "" _).append rfl rfl
  | injectFault now faultCode =>
    exact ⟨hp, _, posted_setInput p (reports_input now .Fault .Fault _ p.temperature)⟩
  | recover now =>
    refine ⟨hp, _, posted_setInput p ?_⟩
    unfold Input.recover
    split
    · exact reports_input now .Ready .Ok "" p.temperature
    · exact reports_input now .Disabled .Disabled "" p.temperature
  | disableInput now =>
    exact ⟨hp, _, posted_setInput p (reports_input now .Disabled .Disabled "" _)⟩
  | enable o now initialOn =>
    exact ⟨hp, _, posted_setOutput p o (reports_actuator o now _ .Ok "" (p.outputs o))⟩
  | disable o now =>
    exact ⟨hp, _, posted_setOutput p o (reports_actuator o now .Disabled .Disabled "" _)⟩
  | applyDesired o now desiredOn =>
    refine ⟨hp, _, posted_setOutput p o ?_⟩
    unfold Actuator.applyDesired
    split
    · exact .refl _ _ _
    · exact reports_actuator o now _ .Ok "" (p.outputs o)
  | beginSupervisor now =>
    obtain ⟨hkept, hsupervised⟩ := begin_spec hmachines hp now
    exact ⟨hkept, posted_supervise hsupervised⟩
  | evaluate now =>
    obtain ⟨hkept, hsupervised⟩ := evaluate_supervised hmachines hp now p.registry
    exact ⟨hkept, posted_supervise hsupervised⟩
  | ruleEvaluated now id decision =>
    refine ⟨hp, _, posted_of_silent rfl ?_ (shown_send _ p) rfl⟩
    intro post hpost
    rw [List.mem_singleton.mp hpost]
  | subscribe handler =>
    exact ⟨hp, [], posted_of_silent (List.append_nil _).symm (by simp)
      (fun source => by cases source <;> rfl) rfl⟩
  | process maxEvents =>
    exact ⟨hp, [], posted_of_silent (List.append_nil _).symm (by simp)
      (fun source => by cases source <;> rfl) rfl⟩

omit [DecidableEq H] in
/-- The platform as it is booted has posted nothing and counted no error. -/
theorem errorCount_boot (state : S) (source : Source) :
    ((boot state : Platform H S).shown source).errorCount = 0 := by
  cases source <;> rfl

omit [DecidableEq H] in
/-- The supervisor of the booted platform is as its invariant says. -/
theorem kept_boot (state : S) : Kept (boot state : Platform H S).supervisor where
  mirrored := ⟨rfl, rfl⟩
  waiting := fun _ => ⟨rfl, rfl⟩

/-- What every call keeps: the posts are known, and the errors among them are counted. -/
structure Recorded (p : Platform H S) : Prop where
  /-- The supervisor is as its calls leave it. -/
  kept : Kept p.supervisor
  /-- All posts so far are about what is known. -/
  known : ∀ post ∈ p.posts, Known post
  /-- The error counts are those of the posts. -/
  counted : ∀ source : Source, (p.shown source).errorCount =
    (reported ComponentHealthChanged source.id p.posts).countP source.isErrorValue % 2^32

/-- The run lemma. -/
theorem run_recorded (hmachines : machines.Documented) (state : S) (labels : List (Label H)) :
    Recorded (run (step machines react) (boot state) labels) := by
  refine run_invariant (fun p label hp => ?_) ?_ labels
  · obtain ⟨hnext, posts, hposted⟩ := step_posted react hmachines hp.kept label
    refine ⟨hnext, ?_, ?_⟩
    · rw [hposted.sent]
      exact fun post hpost => (List.mem_append.mp hpost).elim (hp.known post) (hposted.known post)
    · intro source
      rw [hposted.sent, reported_append, List.countP_append]
      exact hposted.errors source _ (hp.counted source)
  · refine ⟨kept_boot state, fun post hpost => absurd hpost List.not_mem_nil, fun source => ?_⟩
    rw [errorCount_boot]
    rfl

/-- The run lemma: what is posted about a subject are its changes. -/
theorem run_reported (hmachines : machines.Documented) (state : S) (labels : List (Label H))
    (subject : Subject) :
    reported subject.type subject.source (run (step machines react) (boot state) labels).posts =
      (changes (step machines react) (Platform.value subject) (boot state) labels).map
        Prod.fst := by
  have hkeep (p : Platform H S) (label : Label H) (hp : Kept p.supervisor) :
      Kept (step machines react p label).supervisor := (step_posted react hmachines hp label).1
  have hnoted (p : Platform H S) (label : Label H) (hp : Kept p.supervisor) :
      reported subject.type subject.source (step machines react p label).posts =
        reported subject.type subject.source p.posts ++
          noted Prod.fst (p.value subject) ((step machines react p label).value subject) := by
    obtain ⟨-, posts, hposted⟩ := step_posted react hmachines hp label
    rw [hposted.sent, reported_append, hposted.subjects]
  have hlog := log_run (Platform.value subject)
    (fun p => reported subject.type subject.source p.posts) hkeep hnoted (kept_boot state) labels
  exact hlog.trans (List.nil_append _)

/-- In every run of the components and their supervisor, the posts about a component
are its successive distinct states and its successive distinct healths, and those of
the supervisor are its successive distinct states, with the one that it begins in. No
state of a component is posted twice in a row, the last one posted is the current
one, and each component has counted the errors among its posts. -/
theorem posted_changes (machines : EntryMachines SupervisorState EventId)
    (hmachines : machines.Documented) (react : H → Event → S → S) (state : S)
    (labels : List (Label H)) :
    let p := run (step machines react) (boot state) labels
    (∀ subject : Subject, reported subject.type subject.source p.posts =
      (changes (step machines react) (Platform.value subject) (boot state) labels).map
        Prod.fst) ∧
    ∀ source : Source,
      let first := ((boot state : Platform H S).shown source).state
      let states := reported ComponentStateChanged source.id p.posts
      (first::states).IsChain (· ≠ ·) ∧ states.getLastD first = (p.shown source).state ∧
      (p.shown source).errorCount =
        (reported ComponentHealthChanged source.id p.posts).countP source.isErrorValue % 2^32 := by
  intro p
  have hreported := run_reported react hmachines state labels
  refine ⟨hreported, fun source => ?_⟩
  let shownState (p : Platform H S) : ℤ := (p.shown source).state
  have hstates : reported ComponentStateChanged source.id p.posts =
      changes (step machines react) shownState (boot state) labels := by
    have hpair : Function.Injective fun value : ℤ => (value, "") :=
      fun a b h => congrArg Prod.fst h
    have hchanges := changes_injective (step machines react) shownState hpair (boot state) labels
    refine (hreported (.state source)).trans ?_
    change (changes (step machines react) (fun p => (shownState p, "")) (boot state) labels).map
      Prod.fst = _
    rw [hchanges, List.map_map]
    exact List.map_id _
  intro first states
  refine ⟨?_, ?_, (run_recorded react hmachines state labels).counted source⟩
  · rw [show states = _ from hstates]
    exact isChain_changes (step machines react) shownState (boot state) labels
  · rw [show states = _ from hstates]
    exact getLastD_changes (step machines react) shownState (boot state) labels

/-- An input that takes a value, fails twice with the same code, and recovers. -/
def sampleLabels : List (Label Unit) :=
  [.beginSupervisor 1, .setValue 2 (some 21500), .injectFault 3 "probe", .injectFault 4 "probe",
    .recover 5]

/-- The second fault is no change, and no error. -/
theorem posted_changes_sample :
    let p := run (step sampleEntryMachines fun _ _ (s : Unit) => s) (boot ()) sampleLabels
    (p.shown .temperature).errorCount = 1 ∧ (p.shown .temperature).state = 1 := by
  obtain ⟨-, hlast, hcount⟩ := (posted_changes sampleEntryMachines sampleEntryMachines_documented
    (fun (_ : Unit) _ (s : Unit) => s) () sampleLabels).2 .temperature
  exact ⟨hcount.trans (by decide), hlast.symm.trans (by decide)⟩

end ProjEsp32.ComponentReports
