import ProjEsp32.ConfigurationActivation

/-!
# Clients of the configuration store

A call of the store commits under the mutex and runs its activation after it has
released the mutex, so that several calls can be under way between the two. The
configuration in force is the committed one whenever no call is under way, exactly
as long as the activation that runs last is that of the latest commit.
-/

namespace ProjEsp32.ConfigurationClients

open ArduinoJson ConfigurationActivation ConfigurationStore LocalSchedules MachineLibrary
open RuleLoading TransitionRuns
open ConfigurationRuns (Event returned step_ram_of_error)

variable {α : Type} [Zero α] [LT α] [DecidableLT α]

/-- A call of a client, with the faults that its commit meets. -/
inductive Call where
  | apply (faults : Faults) (candidateJson : String)
  | rollback (faults : Faults)

/-- The event of the store that is the commit of a call. -/
def Call.event : Call → Event
  | .apply faults candidateJson => .apply faults candidateJson
  | .rollback faults => .rollback faults

/-- The store, what is in force, and the calls. -/
structure Clients (α : Type) [Zero α] where
  /-- The configuration store. -/
  store : Store := {}
  /-- The services that run a configuration. -/
  running : Running α := {}
  /-- The calls between their two steps, with what they are going to activate. -/
  underWay : List (ℕ × String) := []
  /-- Power has not been lost in the middle of a commit. -/
  powered : Bool := true

/-- A step of a client. -/
inductive Label where
  /-- A call begins; one that is refused is over with it. -/
  | commit (call : Call)
  /-- One of the calls under way runs its activation and is over. -/
  | activate (index : ℕ) (accepted : Bool)

/-- The calls under way after a commit, which has copied the callback. -/
def handedOver (before after : Store) : List (ℕ × String) :=
  if before.ram.activatedCallback then [(after.ram.activeRevision, after.ram.activeRaw)] else []

/-- One step. -/
def step (machines : RunningMachines) (lib : NumberLibrary α) (s : Clients α) :
    Label → Clients α
  | .commit call =>
    if !s.powered then s
    else
      let store := ConfigurationRuns.step lib.toJsonLibrary s.store call.event
      match returned lib.toJsonLibrary s.store call.event with
      | none => { s with store, powered := false }
      | some (.error _) => { s with store }
      | some (.ok _) => { s with store, underWay := s.underWay ++ handedOver s.store store }
  | .activate index accepted =>
    if !s.powered then s
    else
      match s.underWay[index]? with
      | none => s
      | some (revision, raw) =>
        { s with
          running :=
            (activatePersistedConfiguration machines lib accepted revision raw s.running).1
          underWay := s.underWay.eraseIdx index }

/-- Once every call is over, the active document is in force. -/
def Current (lib : NumberLibrary α) (s : Clients α) : Prop :=
  s.powered = true → s.underWay = [] →
    InForce lib s.store.ram.activeRaw s.store.ram.activeRevision s.running

/-- An activation that leaves no call under way is that of the latest commit. -/
def Latest (s : Clients α) : Label → Prop
  | .commit _ => True
  | .activate index _ => s.powered = true → s.underWay.length = 1 →
      ∀ entry ∈ s.underWay[index]?, entry.1 = s.store.ram.activeRevision

instance Latest.decidable (s : Clients α) : ∀ l, Decidable (Latest s l)
  | .commit _ => inferInstanceAs (Decidable True)
  | .activate index _ => inferInstanceAs (Decidable (s.powered = true → s.underWay.length = 1 →
      ∀ entry ∈ s.underWay[index]?, entry.1 = s.store.ram.activeRevision))

/-- No call is under way, and the active document is in force. -/
structure Settled (lib : NumberLibrary α) (s : Clients α) : Prop where
  /-- The store is wired to the services. -/
  wired : Wired lib s.store.ram
  /-- No activation is under way. -/
  idle : s.underWay = []
  /-- The active configuration is in force. -/
  inForce : InForce lib s.store.ram.activeRaw s.store.ram.activeRevision s.running

/-! ### The calls under way -/

variable {lib : NumberLibrary α} {s : Clients α}

/-- A call under way activates a text that was committed. -/
structure Committed (lib : NumberLibrary α) (ram : Ram) (entry : ℕ × String) : Prop where
  /-- The services accept the text. -/
  validated : validatePersistedConfiguration lib entry.2 = .ok ()
  /-- The text states its revision. -/
  carries : Carries lib entry.2 entry.1
  /-- The store is at this revision, or at a later one. -/
  le : entry.1 ≤ ram.activeRevision
  /-- At this revision the store has this text. -/
  latest : entry.1 = ram.activeRevision → entry.2 = ram.activeRaw

/-- The store has its callbacks, and every call under way has committed. -/
structure Tracked (lib : NumberLibrary α) (s : Clients α) : Prop where
  /-- The store is wired to the services. -/
  wired : Wired lib s.store.ram
  /-- What is under way has been committed. -/
  committed : ∀ entry ∈ s.underWay, Committed lib s.store.ram entry

/-- What a commit leaves: it is refused, or it is under way. -/
inductive Committing (lib : NumberLibrary α) (s t : Clients α) : Prop where
  | lost (powered : t.powered = false)
  | refused (ram : t.store.ram = s.store.ram) (running : t.running = s.running)
      (underWay : t.underWay = s.underWay)
  | handed (tracked : Tracked lib t) (underWay : t.underWay ≠ [])

/-- The step lemma of a commit. -/
theorem commit_spec (machines : RunningMachines) (hs : Tracked lib s) (call : Call) :
    Committing lib s (step machines lib s (.commit call)) := by
  unfold step
  dsimp only
  by_cases hpowered : (!s.powered) = true
  · rw [if_pos hpowered]
    exact .refused rfl rfl rfl
  rw [if_neg hpowered]
  cases hreturned : returned lib.toJsonLibrary s.store call.event with
  | none => exact .lost rfl
  | some answer =>
    cases answer with
    | error error => exact .refused (step_ram_of_error hreturned) rfl rfl
    | ok value =>
      have hhanded := handed_of_returned hs.wired hreturned
      dsimp only
      rw [handedOver, if_pos hs.wired.activated]
      refine .handed ⟨hhanded.wired, ?_⟩ (by simp)
      intro entry hentry
      rcases List.mem_append.mp hentry with hold | hnew
      · -- an older call has an older revision
        have hcommitted := hs.committed entry hold
        have hle := hcommitted.le
        have hrevision := hhanded.revision
        refine ⟨hcommitted.validated, hcommitted.carries, ?_, ?_⟩
        · dsimp only
          omega
        · intro heq
          dsimp only at heq
          omega
      · obtain rfl := List.mem_singleton.mp hnew
        exact ⟨hhanded.validated, hhanded.carries, Nat.le_refl _, fun _ => rfl⟩

/-- The step lemma of an activation: what it activates is in force. -/
theorem activate_spec (machines : RunningMachines) (hs : Tracked lib s)
    (hpowered : s.powered = true) {index : ℕ} {entry : ℕ × String}
    (hentry : s.underWay[index]? = some entry) (accepted : Bool) :
    let t := step machines lib s (.activate index accepted)
    Tracked lib t ∧ t.powered = true ∧ t.store = s.store ∧
      t.underWay = s.underWay.eraseIdx index ∧ InForce lib entry.2 entry.1 t.running := by
  obtain ⟨revision, raw⟩ := entry
  have hcommitted := hs.committed _ (List.mem_of_getElem? hentry)
  obtain ⟨hforce, -⟩ := activate_of_validated machines hcommitted.validated hcommitted.carries
    accepted s.running
  unfold step
  dsimp only
  rw [if_neg (by simp [hpowered]), hentry]
  refine ⟨⟨hs.wired, ?_⟩, hpowered, rfl, rfl, hforce⟩
  intro entry hleft
  exact hs.committed entry (List.mem_of_mem_eraseIdx hleft)

/-- The last call under way is the only one. -/
theorem length_of_eraseIdx {entries : List (ℕ × String)} {index : ℕ} {entry : ℕ × String}
    (hentry : entries[index]? = some entry) :
    entries.eraseIdx index = [] ↔ entries.length = 1 := by
  have hindex : index < entries.length := (List.getElem?_eq_some_iff.mp hentry).1
  have hlength := List.length_eraseIdx_of_lt hindex
  rw [← List.length_eq_zero_iff, hlength]
  omega

/-- What holds between two steps. -/
structure Steady (lib : NumberLibrary α) (s : Clients α) : Prop where
  /-- While the device is powered, what is under way is tracked. -/
  tracked : s.powered = true → Tracked lib s
  /-- The services run the latest configuration, or one is under way. -/
  current : Current lib s

/-- An activation keeps the active document in force if and only if it is not an
older one that runs last. -/
theorem activate_current_iff (machines : RunningMachines) (hs : Steady lib s) (index : ℕ)
    (accepted : Bool) :
    let t := step machines lib s (.activate index accepted)
    (t.powered = true → Tracked lib t) ∧
      (Latest s (.activate index accepted) ↔ Current lib t) := by
  cases hpowered : s.powered with
  | false =>
    have hstep : step machines lib s (.activate index accepted) = s := by
      unfold step
      dsimp only
      rw [if_pos (by simp [hpowered])]
    rw [hstep]
    refine ⟨hs.tracked, fun _ => hs.current, fun _ h => ?_⟩
    rw [hpowered] at h
    cases h
  | true =>
    cases hentry : s.underWay[index]? with
    | none =>
      have hstep : step machines lib s (.activate index accepted) = s := by
        unfold step
        dsimp only
        rw [if_neg (by simp [hpowered]), hentry]
      rw [hstep]
      refine ⟨hs.tracked, fun _ => hs.current, fun _ _ _ entry h => ?_⟩
      rw [hentry] at h
      cases h
    | some entry =>
      have htracked := hs.tracked hpowered
      obtain ⟨hnext, hstill, hstore, hunderWay, hforce⟩ :=
        activate_spec machines htracked hpowered hentry accepted
      have hcommitted := htracked.committed entry (List.mem_of_getElem? hentry)
      refine ⟨fun _ => hnext, ?_, ?_⟩
      · intro hlatest _ hover
        rw [hunderWay] at hover
        have hrevision : entry.1 = s.store.ram.activeRevision :=
          hlatest hpowered ((length_of_eraseIdx hentry).mp hover) entry hentry
        rw [hstore, ← hrevision, ← hcommitted.latest hrevision]
        exact hforce
      · intro hcurrent _ hlength other hother
        obtain rfl : entry = other := Option.some.inj (hentry.symm.trans hother)
        have hover := (length_of_eraseIdx hentry).mpr hlength
        rw [← hunderWay] at hover
        have hloaded := (hcurrent hstill hover).loader
        rw [hforce.loader, hstore] at hloaded
        exact hloaded

/-- A commit keeps whatever was in force while no call is under way. -/
theorem commit_current (machines : RunningMachines) (hs : Steady lib s) (call : Call) :
    let t := step machines lib s (.commit call)
    (t.powered = true → Tracked lib t) ∧ Current lib t := by
  cases hpowered : s.powered with
  | false =>
    have hstep : step machines lib s (.commit call) = s := by
      unfold step
      dsimp only
      rw [if_pos (by simp [hpowered])]
    rw [hstep]
    exact ⟨hs.tracked, hs.current⟩
  | true =>
    have htracked := hs.tracked hpowered
    rcases commit_spec machines htracked call with hlost | ⟨hram, hrunning, hunderWay⟩ |
        ⟨hnext, hsome⟩
    · refine ⟨fun h => ?_, fun h => ?_⟩
      · rw [hlost] at h
        cases h
      · rw [hlost] at h
        cases h
    · refine ⟨fun _ => ⟨hram ▸ htracked.wired, fun entry h => ?_⟩, fun _ hover => ?_⟩
      · rw [hunderWay] at h
        have hcommitted := htracked.committed entry h
        rw [hram]
        exact hcommitted
      · rw [hunderWay] at hover
        rw [hram, hrunning]
        exact hs.current hpowered hover
    · exact ⟨fun _ => hnext, fun _ hover => absurd hover hsome⟩

/-- The step lemma: the property is kept exactly by the steps that are in order. -/
theorem step_steady (machines : RunningMachines) (hs : Steady lib s) (l : Label) :
    (step machines lib s l).powered = true → Tracked lib (step machines lib s l) := by
  cases l with
  | commit call => exact (commit_current machines hs call).1
  | activate index accepted => exact (activate_current_iff machines hs index accepted).1

/-- After a step of a steady system the latest commit is current exactly when the step was its. -/
theorem latest_iff_current (machines : RunningMachines) (hs : Steady lib s) (l : Label) :
    Latest s l ↔ Current lib (step machines lib s l) := by
  cases l with
  | commit call => exact ⟨fun _ => (commit_current machines hs call).2, fun _ => trivial⟩
  | activate index accepted => exact (activate_current_iff machines hs index accepted).2

/-- A settled system is steady. -/
theorem Settled.steady (hs : Settled lib s) : Steady lib s where
  tracked := fun _ => ⟨hs.wired, fun entry h => by
    rw [hs.idle] at h
    cases h⟩
  current := fun _ _ => hs.inForce

/-- However the clients interleave, the active document is in force in every state
in which every call is over, if and only if no activation of an older commit ever
runs last. -/
theorem current_run (machines : RunningMachines) (lib : NumberLibrary α) {start : Clients α}
    (hstart : Settled lib start) (labels : List Label) :
    Throughout (step machines lib) (fun s l => Current lib (step machines lib s l)) start labels ↔
      Throughout (step machines lib) Latest start labels := by
  symm
  refine throughout_congr (I := Steady lib) ?_ ?_ hstart.steady labels
  · intro s l hs hlatest
    exact ⟨step_steady machines hs l, (latest_iff_current machines hs l).mp hlatest⟩
  · intro s l hs
    exact latest_iff_current machines hs l

/-! ### Two clients -/

/-- A document with these rules. -/
def clientDocument (revision : ℕ) (rules : List (Json ℕ)) : Json ℕ :=
  .obj [("schema", .int 1), ("revision", .int revision), ("rules", .arr rules),
    ("schedules", .arr [])]

/-- A rule for the heater. -/
def clientRule : Json ℕ :=
  .obj [("id", .str "demo.rule"), ("type", .str "hysteresis"),
    ("input", .str "virtual.temperature"), ("output", .str "virtual.heater"),
    ("on_below", .int 18), ("off_above", .int 21)]

/-- A library with three texts: a rule under revision one, and no rule under any other. -/
def clientLibrary : NumberLibrary ℕ where
  deserializeJson _ raw := some <|
    if raw = "rule1" then clientDocument 1 [clientRule]
    else if raw = "none2" then clientDocument 2 []
    else clientDocument 0 []
  serializeJson document :=
    let revision := (document.member "revision").asUInt 32
    if revision = 1 then "rule1" else if revision = 2 then "none2" else "none0"
  setMember _ document key value := document.withMember key value
  asFloat
    | .int value => .finite value.toNat
    | _ => .nonfinite

/-- The store after the first boot, with the callbacks of main. -/
def clientStore : Store :=
  setLifecycleCallbacks true (some (validatePersistedConfiguration clientLibrary)) true
    (ConfigurationStore.begin clientLibrary.toJsonLibrary {} {}).1

/-- The device after `setup`. -/
def clientSetup : Clients ℕ where
  store := clientStore
  running := (activatePersistedConfiguration sampleRunningMachines clientLibrary true
    clientStore.ram.activeRevision clientStore.ram.activeRaw {}).1

/-- The clients start from a settled system. -/
theorem clientSetup_settled : Settled clientLibrary clientSetup := by
  have hraw : clientStore.ram.activeRaw = "none0" := by decide +kernel
  have hrevision : clientStore.ram.activeRevision = 0 := by decide +kernel
  have hvalid :
      validatePersistedConfiguration clientLibrary clientStore.ram.activeRaw = .ok () := by
    rw [hraw]
    decide +kernel
  have hcarries :
      Carries clientLibrary clientStore.ram.activeRaw clientStore.ram.activeRevision := by
    rw [hraw, hrevision]
    exact ⟨clientDocument 0 [], rfl, by decide +kernel, by decide +kernel⟩
  exact ⟨⟨rfl, rfl⟩, rfl,
    (activate_of_validated sampleRunningMachines hvalid hcarries true {}).1⟩

/-- Two calls in turn keep the active document in force. -/
theorem current_inTurn :
    Throughout (step sampleRunningMachines clientLibrary)
      (fun s l => Current clientLibrary (step sampleRunningMachines clientLibrary s l)) clientSetup
      [.commit (.apply {} "rule1"), .activate 0 true, .commit (.apply {} "none2"),
        .activate 0 true] :=
  (current_run sampleRunningMachines clientLibrary clientSetup_settled _).mpr (by decide +kernel)

/-- Two calls that overlap: the activation of the first commit runs last. Both
calls are over, the active document has no rule, and the device runs the rule of
the document before it. -/
theorem current_overtaken :
    let s := run (step sampleRunningMachines clientLibrary) clientSetup
      [.commit (.apply {} "rule1"), .commit (.apply {} "none2"), .activate 1 true,
        .activate 0 true]
    (Settled clientLibrary clientSetup ∧ s.powered = true ∧ s.underWay = []) ∧
      (s.store.ram.activeRevision = 2 ∧ s.running.loader.loadedRevision = 1 ∧
        s.running.schedule.loadedRevision = 1 ∧ s.running.system.engine.rule.id = "demo.rule") ∧
      ¬Current clientLibrary s := by
  intro s
  have hover : s.powered = true ∧ s.underWay = [] := by decide +kernel
  have hrevisions : s.store.ram.activeRevision = 2 ∧ s.running.loader.loadedRevision = 1 ∧
      s.running.schedule.loadedRevision = 1 ∧ s.running.system.engine.rule.id = "demo.rule" := by
    decide +kernel
  refine ⟨⟨clientSetup_settled, hover⟩, hrevisions, ?_⟩
  intro hcurrent
  have hloaded := (hcurrent hover.1 hover.2).loader
  rw [hrevisions.1, hrevisions.2.1] at hloaded
  cases hloaded

end ProjEsp32.ConfigurationClients
