import ProjEsp32.EventDispatch
import ProjEsp32.MachineEntries

/-!
# The supervisor

The supervisor reads the health of every registered component and leads its state
machine to the worst of them. It keeps a copy of the machine's state, which the
entry functions of the machine write, and posts each change of it.
-/

namespace ProjEsp32.HealthSupervisor

open ArduinoText MachineEntries MachineLibrary TransitionRuns
open EventDispatch (Post)
open RuntimeCore (HealthState)

/-- The components that the registry holds. -/
def MAX_COMPONENTS : ℕ := 24

/-- `RuntimeEventType::SupervisorStateChanged`. -/
def SupervisorStateChanged : ℕ := 102

/-- A component as the registry sees it. -/
structure RegisteredComponent where
  /-- The identifier of the component. -/
  id : String
  /-- Its health, as it answers. -/
  health : HealthState
  deriving DecidableEq

/-- The registered components: a bounded number, with different ids. -/
structure ComponentRegistry where
  /-- The components, in the order in which they were added. -/
  components : List RegisteredComponent
  /-- There are no more than there is room for. -/
  size_le : components.length ≤ MAX_COMPONENTS
  /-- No two have the same identifier. -/
  distinct : components.Pairwise fun a b => cString a.id ≠ cString b.id

namespace ComponentRegistry

/-- A registry without components. -/
def empty : ComponentRegistry := ⟨[], Nat.zero_le _, .nil⟩

/-- `size`. -/
def size (registry : ComponentRegistry) : ℕ := registry.components.length

/-- `find`; ids are compared as C strings. -/
def find (id : String) (registry : ComponentRegistry) : Option RegisteredComponent :=
  registry.components.find? fun component => cString component.id == cString id

/-- `add`: a full registry and a known id are refused. -/
def add (component : RegisteredComponent) (registry : ComponentRegistry) :
    ComponentRegistry × Bool :=
  if hfull : MAX_COMPONENTS ≤ registry.size then (registry, false)
  else if hfound : (registry.find component.id).isSome then (registry, false)
  else
    ({ components := registry.components ++ [component]
       size_le := by
         have hroom := Nat.lt_of_not_le hfull
         rw [List.length_append, List.length_singleton]
         exact hroom
       distinct := by
         rw [List.pairwise_append]
         refine ⟨registry.distinct, List.pairwise_singleton _ _, ?_⟩
         intro known hknown added hadded hsame
         rw [List.mem_singleton.mp hadded] at hsame
         exact hfound (List.find?_isSome.mpr ⟨known, hknown, beq_iff_eq.mpr hsame⟩) }, true)

/-- The components report other health from now on. -/
def report (health : String → HealthState) (registry : ComponentRegistry) : ComponentRegistry where
  components := registry.components.map fun component =>
    { component with health := health component.id }
  size_le := by
    rw [List.length_map]
    exact registry.size_le
  distinct := by
    rw [List.pairwise_map]
    exact registry.distinct

end ComponentRegistry

/-- The states of the supervisor. -/
inductive SupervisorState where
  | Initializing
  | Running
  | Degraded
  | Fault
  deriving DecidableEq

/-- The number of a state, as it is posted. -/
def SupervisorState.value : SupervisorState → ℤ
  | .Initializing => 0
  | .Running => 1
  | .Degraded => 2
  | .Fault => 3

/-- The events of its machine. -/
inductive EventId where
  | EventAllHealthy
  | EventDegraded
  | EventFault
  deriving DecidableEq

/-- `configureTransitions`. -/
def transitions : List (Transition SupervisorState EventId) :=
  [⟨.Initializing, .Running, .EventAllHealthy⟩, ⟨.Initializing, .Degraded, .EventDegraded⟩,
    ⟨.Initializing, .Fault, .EventFault⟩, ⟨.Running, .Degraded, .EventDegraded⟩,
    ⟨.Running, .Fault, .EventFault⟩, ⟨.Degraded, .Running, .EventAllHealthy⟩,
    ⟨.Degraded, .Fault, .EventFault⟩, ⟨.Fault, .Running, .EventAllHealthy⟩,
    ⟨.Fault, .Degraded, .EventDegraded⟩]

/-- The counters of `countHealth`. -/
structure HealthCounts where
  /-- The components that are `Ok`. -/
  okCount : ℕ := 0
  /-- Those that are degraded. -/
  degradedCount : ℕ := 0
  /-- Those with a fault. -/
  faultCount : ℕ := 0
  /-- Those that recover. -/
  recoveringCount : ℕ := 0
  /-- Those that are disabled. -/
  disabledCount : ℕ := 0
  deriving DecidableEq

/-- One component more. -/
def HealthCounts.count (counts : HealthCounts) (component : RegisteredComponent) : HealthCounts :=
  match component.health with
  | .Ok => { counts with okCount := counts.okCount + 1 }
  | .Degraded => { counts with degradedCount := counts.degradedCount + 1 }
  | .Fault => { counts with faultCount := counts.faultCount + 1 }
  | .Recovering => { counts with recoveringCount := counts.recoveringCount + 1 }
  | .Disabled => { counts with disabledCount := counts.disabledCount + 1 }

/-- The sum of the five counters. -/
def HealthCounts.total (counts : HealthCounts) : ℕ :=
  counts.okCount + counts.degradedCount + counts.faultCount + counts.recoveringCount +
    counts.disabledCount

/-- The variables of the supervisor. -/
structure Supervisor where
  /-- The state machine. -/
  machine : Machine SupervisorState := { current := .Initializing }
  /-- The copy of its state. -/
  state : SupervisorState := .Initializing
  /-- `begin` has been called. -/
  started : Bool := false
  /-- When the state changed last. -/
  lastTransitionMs : ℕ := 0
  /-- The evaluations so far. -/
  evaluationCount : ℕ := 0
  /-- The healths that the last of them has counted. -/
  counts : HealthCounts := {}
  /-- Every call of `post` so far, whether the bus took it or not; nothing reads them. -/
  posts : List Post := []
  deriving DecidableEq

/-- The post of a state. -/
def statePost (now : ℕ) (state : SupervisorState) : Post where
  type := SupervisorStateChanged
  source := some "supervisor"
  value := state.value
  atMs := now % 2^32

namespace Supervisor

/-- `setState`. -/
def setState (now : ℕ) (next : SupervisorState) (s : Supervisor) : Supervisor :=
  let changed := next != s.state
  let s := { s with state := next }
  if !changed && s.lastTransitionMs != 0 then s
  else { s with lastTransitionMs := now % 2^32, posts := s.posts ++ [statePost now next] }

/-- A call of the machine, with the entry functions that it calls. -/
def entered (now : ℕ) (called : Machine SupervisorState × List SupervisorState) (s : Supervisor) :
    Supervisor :=
  called.2.foldl (fun s next => s.setState now next) { s with machine := called.1 }

/-- `begin`. -/
def begin (machines : EntryMachines SupervisorState EventId) (now : ℕ) (s : Supervisor) :
    Supervisor :=
  if s.started then s
  else { s with started := true }.entered now (machines.runMachine s.machine)

/-- `countHealth`. -/
def countHealth (registry : ComponentRegistry) (s : Supervisor) : Supervisor :=
  { s with counts := registry.components.foldl HealthCounts.count {} }

/-- `machine_.trigger`. -/
def trigger (machines : EntryMachines SupervisorState EventId) (now : ℕ) (event : EventId)
    (s : Supervisor) : Supervisor :=
  s.entered now (machines.trigger transitions event s.machine)

/-- `requestState`. -/
def requestState (machines : EntryMachines SupervisorState EventId) (now : ℕ)
    (desired : SupervisorState) (s : Supervisor) : Supervisor :=
  if desired = s.state then s
  else
    match desired with
    | .Running => s.trigger machines now .EventAllHealthy
    | .Degraded => s.trigger machines now .EventDegraded
    | .Fault => s.trigger machines now .EventFault
    | .Initializing => s

/-- The state that the counters ask for. -/
def desired (registry : ComponentRegistry) (counts : HealthCounts) : SupervisorState :=
  if registry.size = 0 then .Initializing
  else if 0 < counts.faultCount then .Fault
  else if 0 < counts.degradedCount || 0 < counts.recoveringCount then .Degraded
  else .Running

/-- `evaluate`. -/
def evaluate (machines : EntryMachines SupervisorState EventId) (now : ℕ)
    (registry : ComponentRegistry) (s : Supervisor) : Supervisor :=
  if !s.started then s
  else
    let s := { s with evaluationCount := (s.evaluationCount + 1) % 2^32 }.countHealth registry
    let s := s.requestState machines now (desired registry s.counts)
    s.entered now (machines.runMachine s.machine)

end Supervisor

/-- The supervisor and what it supervises. -/
structure Platform where
  /-- The components. -/
  registry : ComponentRegistry := .empty
  /-- Their supervisor. -/
  supervisor : Supervisor := {}

/-- A call of the supervisor, or a change of the components between two of them. -/
inductive Label where
  | begin (now : ℕ)
  | evaluate (now : ℕ)
  | add (component : RegisteredComponent)
  | report (health : String → HealthState)

/-- One step. -/
def step (machines : EntryMachines SupervisorState EventId) (s : Platform) : Label → Platform
  | .begin now => { s with supervisor := s.supervisor.begin machines now }
  | .evaluate now => { s with supervisor := s.supervisor.evaluate machines now s.registry }
  | .add component => { s with registry := (s.registry.add component).1 }
  | .report health => { s with registry := s.registry.report health }

/-- The worst health of some components; those that are disabled do not count. -/
def worst (components : List RegisteredComponent) : SupervisorState :=
  if ∃ component ∈ components, component.health = .Fault then .Fault
  else if ∃ component ∈ components, component.health = .Degraded ∨
      component.health = .Recovering then .Degraded
  else .Running

/-- The run has begun the supervisor. -/
def Begun (labels : List Label) : Prop := ∃ now, .begin now ∈ labels

/-- What an evaluation leaves, in terms of the registry. -/
structure Evaluated (registry : ComponentRegistry) (t : Supervisor) : Prop where
  /-- The state is that of the worst health. -/
  state : t.state = worst registry.components
  /-- Every component has been counted. -/
  total : t.counts.total = registry.size

/-- A call posts the state that it changes to, once, and nothing otherwise. -/
def PostsChange (now : ℕ) (s t : Supervisor) : Prop :=
  t.posts = if t.state = s.state then s.posts else s.posts ++ [statePost now t.state]

/-- The machine has run exactly when the supervisor is started, and its current
state is the copy. -/
structure Mirrored (s : Supervisor) : Prop where
  /-- The copy is the state of the machine. -/
  current : s.machine.current = s.state
  /-- The machine has run exactly when the supervisor is started. -/
  initialized : s.machine.initialized = s.started

variable {machines : EntryMachines SupervisorState EventId} {s : Supervisor} {now : ℕ}
variable {registry : ComponentRegistry}

/-! ### Counting -/

/-- The number of components with a health. -/
def number (components : List RegisteredComponent) (health : HealthState) : ℕ :=
  components.countP fun component => component.health = health

/-- The counters count. -/
structure Counts (components : List RegisteredComponent) (before after : HealthCounts) : Prop where
  /-- The healthy ones are added. -/
  ok : after.okCount = before.okCount + number components .Ok
  /-- The degraded ones. -/
  degraded : after.degradedCount = before.degradedCount + number components .Degraded
  /-- Those with a fault. -/
  fault : after.faultCount = before.faultCount + number components .Fault
  /-- Those that recover. -/
  recovering : after.recoveringCount = before.recoveringCount + number components .Recovering
  /-- And all of them in the sum. -/
  total : after.total = before.total + components.length

/-- The counts grow by the components that are counted. -/
theorem count_spec (components : List RegisteredComponent) (counts : HealthCounts) :
    Counts components counts (components.foldl HealthCounts.count counts) := by
  induction components generalizing counts with
  | nil => exact ⟨rfl, rfl, rfl, rfl, rfl⟩
  | cons component components ih =>
    obtain ⟨hok, hdegraded, hfault, hrecovering, htotal⟩ := ih (counts.count component)
    simp only [List.foldl_cons]
    cases hhealth : component.health <;>
      refine ⟨?_, ?_, ?_, ?_, ?_⟩ <;>
      simp only [HealthCounts.count, HealthCounts.total, number, List.countP_cons, hhealth,
        List.length_cons, decide_true, reduceCtorEq, decide_false, if_true, Bool.false_eq_true,
        if_false] at hok hdegraded hfault hrecovering htotal ⊢ <;> omega

/-- A counter is positive when a component has its health. -/
theorem number_pos (components : List RegisteredComponent) (health : HealthState) :
    0 < number components health ↔ ∃ component ∈ components, component.health = health := by
  simp [number, List.countP_pos_iff]

/-- The counters of components that are there ask for the worst health. -/
theorem desired_eq_worst (hsize : registry.components ≠ []) :
    Supervisor.desired registry (registry.components.foldl HealthCounts.count {}) =
      worst registry.components := by
  obtain ⟨-, hdegraded, hfault, hrecovering, -⟩ := count_spec registry.components {}
  have hnonempty : ¬registry.size = 0 := fun hzero => hsize (List.length_eq_zero_iff.mp hzero)
  have hworse : (∃ component ∈ registry.components, component.health = .Degraded ∨
      component.health = .Recovering) ↔
      0 < number registry.components .Degraded ∨ 0 < number registry.components .Recovering := by
    rw [number_pos, number_pos, ← exists_or]
    simp only [← and_or_left]
  have hbroken := number_pos registry.components .Fault
  unfold Supervisor.desired worst
  rw [if_neg hnonempty, hfault, hdegraded, hrecovering]
  simp only [Nat.zero_add, Bool.or_eq_true, decide_eq_true_eq, ← hbroken, hworse]

/-! ### The machine -/

/-- A state that is entered from another one is copied, and posted. -/
theorem setState_of_ne {next : SupervisorState} (h : next ≠ s.state) :
    s.setState now next =
      { s with
        state := next
        lastTransitionMs := now % 2^32
        posts := s.posts ++ [statePost now next] } := by
  have hchanged : (next != s.state) = true := bne_iff_ne.mpr h
  simp [Supervisor.setState, hchanged]

/-- A state that is entered is the copy. -/
theorem setState_state (now : ℕ) (next : SupervisorState) (s : Supervisor) :
    (s.setState now next).state = next ∧ (s.setState now next).machine = s.machine ∧
      (s.setState now next).started = s.started := by
  unfold Supervisor.setState
  dsimp only
  split <;> exact ⟨rfl, rfl, rfl⟩

/-- The table leads from every state to every other one that is asked for. -/
theorem transition_exists (machines : EntryMachines SupervisorState EventId) (now : ℕ)
    {state desired : SupervisorState} (hne : desired ≠ state)
    (hinitializing : desired ≠ .Initializing) :
    ∃ event, firstTransition transitions event state = some ⟨state, desired, event⟩ ∧
      ∀ s : Supervisor, s.state = state → s.requestState machines now desired =
        s.trigger machines now event := by
  cases desired with
  | Initializing => exact absurd rfl hinitializing
  | Running =>
    refine ⟨.EventAllHealthy, ?_, ?_⟩
    · cases state <;> first | rfl | exact absurd rfl hne
    · rintro s rfl
      exact if_neg hne
  | Degraded =>
    refine ⟨.EventDegraded, ?_, ?_⟩
    · cases state <;> first | rfl | exact absurd rfl hne
    · rintro s rfl
      exact if_neg hne
  | Fault =>
    refine ⟨.EventFault, ?_, ?_⟩
    · cases state <;> first | rfl | exact absurd rfl hne
    · rintro s rfl
      exact if_neg hne

/-- A state that is asked for is entered, unless it is there or the first one. -/
theorem requestState_spec (now : ℕ) (h : machines.Documented) (hs : Mirrored s)
    (hstarted : s.started = true) (desired : SupervisorState) :
    s.requestState machines now desired =
      if desired = s.state ∨ desired = .Initializing then s
      else { s with
        machine := { s.machine with current := desired }, state := desired
        lastTransitionMs := now % 2^32, posts := s.posts ++ [statePost now desired] } := by
  by_cases hsame : desired = s.state
  · rw [if_pos (.inl hsame)]
    unfold Supervisor.requestState
    rw [if_pos hsame]
  · by_cases hinitializing : desired = .Initializing
    · rw [if_pos (.inr hinitializing)]
      unfold Supervisor.requestState
      rw [if_neg hsame, hinitializing]
    · obtain ⟨event, hfirst, hrequest⟩ := transition_exists machines now hsame hinitializing
      have hrun : s.machine.initialized = true := hs.initialized.trans hstarted
      rw [← hs.current] at hfirst
      rw [if_neg (not_or.mpr ⟨hsame, hinitializing⟩), hrequest s rfl, Supervisor.trigger,
        h.taken transitions event s.machine _ hrun hfirst]
      exact setState_of_ne hsame

/-- A supervisor that is started has run its machine, and runs it without effect. -/
theorem entered_again (h : machines.Documented) (hrun : s.machine.initialized = true) :
    s.entered now (machines.runMachine s.machine) = s := by
  rw [h.again s.machine hrun]
  rfl

/-- The supervisor that is started shows the state of its machine. -/
theorem begin_mirrored (now : ℕ) (h : machines.Documented) (hs : Mirrored s) :
    Mirrored (s.begin machines now) ∧ (s.begin machines now).started = true := by
  unfold Supervisor.begin
  by_cases hstarted : s.started = true
  · rw [if_pos hstarted]
    exact ⟨hs, hstarted⟩
  · rw [if_neg hstarted]
    have hrun : s.machine.initialized = false := by
      rw [hs.initialized]
      exact Bool.eq_false_iff.mpr hstarted
    rw [h.first s.machine hrun]
    obtain ⟨hstate, hmachine, hkept⟩ :=
      setState_state now s.machine.current
        { s with started := true, machine := { s.machine with initialized := true } }
    refine ⟨⟨?_, ?_⟩, hkept⟩
    · exact (congrArg Machine.current hmachine).trans hstate.symm
    · exact (congrArg Machine.initialized hmachine).trans hkept.symm

/-- The state that an evaluation asks for, with the counters that it has counted. -/
theorem evaluate_eq (now : ℕ) (registry : ComponentRegistry) (h : machines.Documented)
    (hs : Mirrored s) (hstarted : s.started = true) :
    let counts := registry.components.foldl HealthCounts.count {}
    let counted : Supervisor :=
      { s with evaluationCount := (s.evaluationCount + 1) % 2^32, counts := counts }
    let desired := Supervisor.desired registry counts
    s.evaluate machines now registry =
      if desired = s.state ∨ desired = .Initializing then counted
      else { counted with
        machine := { s.machine with current := desired }, state := desired
        lastTransitionMs := now % 2^32, posts := s.posts ++ [statePost now desired] } := by
  intro counts counted desired
  have hcounted : Mirrored counted := ⟨hs.current, hs.initialized⟩
  have hrequest := requestState_spec now h hcounted hstarted desired
  have hevaluate : s.evaluate machines now registry =
      (counted.requestState machines now desired).entered now
        (machines.runMachine (counted.requestState machines now desired).machine) := by
    unfold Supervisor.evaluate
    rw [if_neg (by simp [hstarted])]
    rfl
  have hrun : (counted.requestState machines now desired).machine.initialized = true := by
    rw [hrequest]
    split <;> exact hs.initialized.trans hstarted
  rw [hevaluate, entered_again h hrun, hrequest]

/-- What an evaluation leaves of a supervisor that is started. -/
theorem evaluate_spec (h : machines.Documented) (hs : Mirrored s) (hstarted : s.started = true)
    (now : ℕ) (registry : ComponentRegistry) :
    Mirrored (s.evaluate machines now registry) ∧
      PostsChange now s (s.evaluate machines now registry) ∧
      (registry.components ≠ [] → Evaluated registry (s.evaluate machines now registry)) := by
  have heq := evaluate_eq now registry h hs hstarted
  have htotal : (registry.components.foldl HealthCounts.count {}).total = registry.size := by
    have hcount := (count_spec registry.components {}).total
    exact hcount.trans (Nat.zero_add _)
  have hworst : registry.components ≠ [] → Supervisor.desired registry
      (registry.components.foldl HealthCounts.count {}) = worst registry.components :=
    desired_eq_worst
  have hnever : worst registry.components ≠ .Initializing := by
    unfold worst
    split
    · exact nofun
    · split <;> exact nofun
  rw [heq]
  generalize hdesired : Supervisor.desired registry
    (registry.components.foldl HealthCounts.count {}) = desired at hworst ⊢
  by_cases hstays : desired = s.state ∨ desired = .Initializing
  · rw [if_pos hstays]
    refine ⟨⟨hs.current, hs.initialized⟩, (if_pos rfl).symm, fun hnonempty => ⟨?_, htotal⟩⟩
    rcases hstays with hsame | hinitializing
    · exact hsame.symm.trans (hworst hnonempty)
    · exact absurd ((hworst hnonempty).symm.trans hinitializing) hnever
  · rw [if_neg hstays]
    refine ⟨⟨rfl, hs.initialized⟩, (if_neg fun hsame => hstays (.inl hsame)).symm,
      fun hnonempty => ⟨hworst hnonempty, htotal⟩⟩

/-- Before `begin` an evaluation does nothing. -/
theorem evaluate_of_not_started (hstarted : s.started = false) (now : ℕ)
    (registry : ComponentRegistry) : s.evaluate machines now registry = s := by
  unfold Supervisor.evaluate
  rw [if_pos (by simp [hstarted])]

/-- Started or not, an evaluation keeps the copy, and posts what it changes. -/
theorem evaluate_kept (h : machines.Documented) (hs : Mirrored s) (now : ℕ)
    (registry : ComponentRegistry) :
    Mirrored (s.evaluate machines now registry) ∧
      PostsChange now s (s.evaluate machines now registry) ∧
      (s.evaluate machines now registry).started = s.started := by
  cases hstarted : s.started with
  | true =>
    obtain ⟨hmirrored, hposts, -⟩ := evaluate_spec h hs hstarted now registry
    refine ⟨hmirrored, hposts, ?_⟩
    rw [evaluate_eq now registry h hs hstarted]
    split <;> exact hstarted
  | false =>
    rw [evaluate_of_not_started hstarted]
    exact ⟨hs, (if_pos rfl).symm, hstarted⟩

/-! ### Runs -/

/-- The step lemma: the copy is kept, and only `begin` starts. -/
theorem step_mirrored (h : machines.Documented) {p : Platform} (hs : Mirrored p.supervisor)
    (label : Label) :
    Mirrored (step machines p label).supervisor ∧
      ((step machines p label).supervisor.started = true ↔
        p.supervisor.started = true ∨ ∃ now, label = .begin now) := by
  cases label with
  | begin now =>
    obtain ⟨hmirrored, hstarted⟩ := begin_mirrored now h hs
    exact ⟨hmirrored, fun _ => .inr ⟨now, rfl⟩, fun _ => hstarted⟩
  | evaluate now =>
    obtain ⟨hmirrored, -, hstarted⟩ := evaluate_kept h hs now p.registry
    refine ⟨hmirrored, ?_⟩
    simp [step, hstarted]
  | add component => exact ⟨hs, by simp [step]⟩
  | report health => exact ⟨hs, by simp [step]⟩

/-- The run lemma. -/
theorem run_mirrored (h : machines.Documented) {p : Platform} (hs : Mirrored p.supervisor)
    (labels : List Label) :
    Mirrored (run (step machines) p labels).supervisor ∧
      ((run (step machines) p labels).supervisor.started = true ↔
        p.supervisor.started = true ∨ Begun labels) := by
  induction labels generalizing p with
  | nil => exact ⟨hs, by simp [Begun]⟩
  | cons label labels ih =>
    obtain ⟨hnext, hstarted⟩ := step_mirrored h hs label
    obtain ⟨hmirrored, hrun⟩ := ih hnext
    refine ⟨hmirrored, ?_⟩
    rw [run_cons, hrun, hstarted]
    have hbegun : Begun (label::labels) ↔ (∃ now, label = .begin now) ∨ Begun labels := by
      simp only [Begun, List.mem_cons, exists_or, eq_comm]
    rw [hbegun, or_assoc]

/-- After any run from any registry the copy of the state is the state of the
machine, and an evaluation posts the state that it changes to, once. When the run
has begun the supervisor and a component is registered, an evaluation leaves the
worst health and counts every component; before that it does nothing. -/
theorem supervisor_run (machines : EntryMachines SupervisorState EventId)
    (hmachines : machines.Documented) (registry : ComponentRegistry) (labels : List Label) :
    let p := run (step machines) { registry } labels
    p.supervisor.machine.current = p.supervisor.state ∧
    ∀ now, PostsChange now p.supervisor (step machines p (.evaluate now)).supervisor ∧
      (Begun labels → p.registry.components ≠ [] →
        Evaluated p.registry (step machines p (.evaluate now)).supervisor) ∧
      (¬Begun labels → step machines p (.evaluate now) = p) := by
  intro p
  have hfirst : Mirrored ({ registry } : Platform).supervisor := ⟨rfl, rfl⟩
  obtain ⟨hmirrored, hstarted⟩ := run_mirrored hmachines hfirst labels
  have hbegun : p.supervisor.started = true ↔ Begun labels := by simpa using hstarted
  refine ⟨hmirrored.current, fun now => ⟨?_, ?_, ?_⟩⟩
  · exact (evaluate_kept hmachines hmirrored now p.registry).2.1
  · intro hrun hnonempty
    exact (evaluate_spec hmachines hmirrored (hbegun.mpr hrun) now p.registry).2.2 hnonempty
  · intro hrun
    have hwaiting : p.supervisor.started = false :=
      Bool.eq_false_iff.mpr fun h => hrun (hbegun.mp h)
    simp only [step, evaluate_of_not_started hwaiting]

/-- A registry with one component. -/
def sampleRegistry : ComponentRegistry :=
  (ComponentRegistry.empty.add { id := "connectivity", health := .Ok }).1

/-- The component fails after the supervisor has begun. -/
theorem supervisor_sample :
    (run (step sampleEntryMachines) { registry := sampleRegistry }
      [.begin 1, .evaluate 2, .report fun _ => .Fault, .evaluate 3]).supervisor.state = .Fault :=
  ((supervisor_run sampleEntryMachines sampleEntryMachines_documented sampleRegistry
    [.begin 1, .evaluate 2, .report fun _ => .Fault]).2 3).2.1 ⟨1, by simp⟩ (by decide) |>.state

/-- An evaluation before `begin` leaves the first state, with a component that is Ok. -/
theorem supervisor_early :
    ¬ ∀ (machines : EntryMachines SupervisorState EventId), machines.Documented →
      ∀ (registry : ComponentRegistry) (labels : List Label) (now : ℕ),
        let p := run (step machines) { registry } labels
        p.registry.components ≠ [] →
          Evaluated p.registry (step machines p (.evaluate now)).supervisor := by
  intro h
  have hevaluated := h sampleEntryMachines sampleEntryMachines_documented sampleRegistry [] 0
    (by decide)
  exact absurd hevaluated.state (by decide)

end ProjEsp32.HealthSupervisor
