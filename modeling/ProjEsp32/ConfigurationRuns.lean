import ProjEsp32.ConfigurationStore
import ProjEsp32.TransitionRuns

/-!
# Runs of the configuration store

Every order of begin, apply, rollback and reboot, with any faults in each of
them, from erased preferences. The active document is what a boot would load;
it changes only with the pointer, and with it to exactly the text that the call
set out to commit, under the next revision.
-/

namespace ProjEsp32.ConfigurationRuns

open ArduinoText ArduinoJson CheckedResult ConfigurationDocument ConfigurationStore TwoSlots
open TransitionRuns

variable {α : Type}

/-- One call of the store, with the faults it meets, or a loss of power between
two calls. -/
inductive Event where
  | begin (faults : Faults)
  | apply (faults : Faults) (candidateJson : String)
  | rollback (faults : Faults)
  | setLifecycleCallbacks (locks : Bool) (validator : Option (String → Except String Unit))
      (activated : Bool)
  | reboot

/-- The store after one event. -/
def step (lib : JsonLibrary α) (s : Store) : Event → Store
  | .begin faults => (begin lib faults s).1
  | .apply faults candidateJson => (apply lib faults candidateJson s).1
  | .rollback faults => (rollback lib faults s).1
  | .setLifecycleCallbacks locks validator activated =>
    setLifecycleCallbacks locks validator activated s
  | .reboot => s.powerLost s.nvs

/-- What an apply or a rollback returns; nothing for the other events. -/
def returned (lib : JsonLibrary α) (s : Store) : Event → Returned (Except String Unit)
  | .apply faults candidateJson => (apply lib faults candidateJson s).2
  | .rollback faults => (rollback lib faults s).2
  | _ => none

/-- The revision and the text that an apply or a rollback sets out to commit. -/
def intended (lib : JsonLibrary α) (s : Store) : Event → Except String (ℕ × String)
  | .apply faults candidateJson => applyText lib faults candidateJson s.ram
  | .rollback faults => rollbackTo lib faults s
  | _ => .error "nothing_intended"

/-- What a call writes as the document of a revision: an apply the canonical text of its
candidate, a rollback the document of the slot that is not in use. -/
inductive Writes (lib : JsonLibrary α) (s : Store) (revision : ℕ) : Event → String → Prop where
  | candidate {faults : Faults} {candidateJson : String} {document : Json α}
      (read : lib.deserializeJson JSON_CAPACITY candidateJson = some document)
      (valid : validateDocument document false = .ok ()) :
      Writes lib s revision (.apply faults candidateJson)
        (lib.serializeJson (lib.setMember JSON_CAPACITY
          (lib.setMember JSON_CAPACITY document "schema" (.int SCHEMA_VERSION)) "revision"
          (.int revision)))
  | previous {faults : Faults} {document : Json α}
      (read : lib.deserializeJson JSON_CAPACITY
        (s.nvs.slots.get (otherSlot s.ram.activeSlot)) = some document)
      (valid : validateDocument document true = .ok ()) :
      Writes lib s revision (.rollback faults)
        (lib.serializeJson (lib.setMember JSON_CAPACITY document "revision" (.int revision)))

/-- The active document in memory, with its revision. -/
def ramActive (ram : Ram) : Option (String × ℕ) :=
  if ram.configReady then some (ram.activeRaw, ram.activeRevision) else none

/-- The active document of a device that boots with these preferences, when
nothing fails. -/
def afterReboot (lib : JsonLibrary α) (nvs : Nvs) : Option (String × ℕ) :=
  ramActive (begin lib {} { nvs }).1.ram

/-- The slot that the pointer selects. -/
def selectedSlot (nvs : Nvs) : ℕ := nvs.active.getD 0

/-- The pointer selects a document, or there is none at all; and what is in
memory is what the pointer selects. -/
structure Consistent (lib : JsonLibrary α) (s : Store) : Prop where
  /-- The pointer names one of the two slots. -/
  pointer : selectedSlot s.nvs ≤ 1
  /-- A slot in use that does not load is blank. -/
  blank : loadSlot lib s.nvs (selectedSlot s.nvs) = none →
    selectedSlot s.nvs = 0 ∧ loadSlot lib s.nvs 1 = none ∧ s.ram.configReady = false
  /-- While the store is in use, memory and preferences agree. -/
  ready : s.ram.configReady = true → s.ram.activeSlot = selectedSlot s.nvs ∧
    loadSlot lib s.nvs (selectedSlot s.nvs) = some (s.ram.activeRaw, s.ram.activeRevision)

variable {lib : JsonLibrary α} {s : Store}

/-! ### What a boot loads -/

/-- A boot loads the document that the pointer selects. -/
theorem afterReboot_selected {nvs : Nvs} {active : String × ℕ} (hpointer : selectedSlot nvs ≤ 1)
    (hload : loadSlot lib nvs (selectedSlot nvs) = some active) :
    afterReboot lib nvs = some active := by
  unfold selectedSlot at hpointer hload
  simp [afterReboot, begin, Store.loaded, ramActive, hpointer, hload]

/-- A text that reads back is committed when nothing fails. -/
theorem commitSlot_clean {slot : ℕ} {raw : String} {revision : ℕ} (pointerError : String)
    (nvs : Nvs) (hreads : Reads lib raw revision) :
    ∃ t, commitSlot lib {} slot raw revision pointerError nvs = (t, some (.ok raw)) := by
  obtain ⟨htext, hload⟩ := hreads
  refine ⟨{ nvs with slots := nvs.slots.set slot raw }.putActive slot, ?_⟩
  simp [commitSlot, persistSlotVerified, putActive, loadSlot, Nvs.putSlot, htext, hload]

/-- Without any document a boot creates the default one, if that reads back. -/
theorem afterReboot_blank {nvs : Nvs} (hpointer : selectedSlot nvs = 0)
    (hslot0 : loadSlot lib nvs 0 = none) (hslot1 : loadSlot lib nvs 1 = none)
    (active : String × ℕ) :
    afterReboot lib nvs = some active ↔
      Reads lib (defaultConfiguration lib) 0 ∧ active = (defaultConfiguration lib, 0) := by
  unfold selectedSlot at hpointer
  unfold afterReboot begin
  simp only [hpointer, otherSlot, hslot0, hslot1, Nat.zero_le, Bool.not_true, Bool.false_eq_true,
    if_false, if_true]
  constructor
  · intro h
    rcases commitSlot_cases lib {} 0 (defaultConfiguration lib) 0 "default_pointer_write_failed" nvs
      with ⟨_, hresult⟩ | ⟨hcommitted, hresult⟩
    · generalize commitSlot lib {} 0 (defaultConfiguration lib) 0 "default_pointer_write_failed"
        nvs = out at h hresult
      obtain ⟨t, _ | (error | verified)⟩ := out
      · simp [Store.powerLost, ramActive] at h
      · simp [Store.notReady, ramActive] at h
      · exact absurd rfl (hresult verified)
    · refine ⟨hcommitted.reads, ?_⟩
      generalize commitSlot lib {} 0 (defaultConfiguration lib) 0 "default_pointer_write_failed"
        nvs = out at h hresult
      obtain ⟨t, result⟩ := out
      rcases hresult with rfl | rfl
      · simp [Store.powerLost, ramActive] at h
      · simpa [removeSlot1, Store.loaded, ramActive, eq_comm] using h
  · rintro ⟨hreads, rfl⟩
    obtain ⟨t, heq⟩ := commitSlot_clean "default_pointer_write_failed" nvs hreads
    rw [heq]
    rfl

/-- A boot cannot tell two preferences apart that select the same document. -/
theorem afterReboot_congr {nvs t : Nvs} {active : String × ℕ} (hpointer : selectedSlot nvs ≤ 1)
    (hload : loadSlot lib nvs (selectedSlot nvs) = some active)
    (hslot : selectedSlot t = selectedSlot nvs)
    (hsame : loadSlot lib t (selectedSlot t) = loadSlot lib nvs (selectedSlot nvs)) :
    afterReboot lib t = afterReboot lib nvs := by
  rw [afterReboot_selected hpointer hload]
  exact afterReboot_selected (hslot ▸ hpointer) (hsame.trans hload)

/-- What is in memory is what a boot would load. -/
theorem Consistent.ramActive (hs : Consistent lib s) (hready : s.ram.configReady = true) :
    ramActive s.ram = afterReboot lib s.nvs := by
  have hload := (hs.ready hready).2
  rw [afterReboot_selected hs.pointer hload, ConfigurationRuns.ramActive, if_pos hready]

/-- The document that a boot loads is a valid text. -/
theorem loadText_of_afterReboot (hs : Consistent lib s) {active : String × ℕ}
    (h : afterReboot lib s.nvs = some active) : loadText lib active.1 = some active := by
  cases hload : loadSlot lib s.nvs (selectedSlot s.nvs) with
  | some loaded =>
    obtain rfl := Option.some.inj (h.symm.trans (afterReboot_selected hs.pointer hload))
    rw [loadText_fst hload]
    exact hload
  | none =>
    obtain ⟨hzero, hother, _⟩ := hs.blank hload
    obtain ⟨hreads, rfl⟩ := (afterReboot_blank hzero (hzero ▸ hload) hother active).mp h
    exact hreads.2

/-- Nothing in memory is consistent with any preferences that are. -/
theorem Consistent.forget {s t : Store} (hs : Consistent lib s) (hnvs : t.nvs = s.nvs)
    (hready : t.ram.configReady = false) : Consistent lib t where
  pointer := hnvs ▸ hs.pointer
  blank := by
    intro hload
    obtain ⟨hslot, hother, _⟩ := hs.blank (hnvs ▸ hload)
    exact ⟨hnvs ▸ hslot, hnvs ▸ hother, hready⟩
  ready := by
    intro h
    rw [hready] at h
    cases h

/-! ### What an apply or a rollback can do -/

/-- The call did not commit: whoever asks, before or after a reboot, finds the
document that was active before it. -/
structure Kept (lib : JsonLibrary α) (s t : Store) (out : Returned (Except String Unit)) :
    Prop where
  /-- A boot finds what it would have found. -/
  nvs : afterReboot lib t.nvs = afterReboot lib s.nvs
  /-- The pointer has not been written. -/
  pointerWrites : t.nvs.pointerWrites = s.nvs.pointerWrites
  /-- Nothing has been activated. -/
  activations : t.activations = s.activations
  /-- The power has failed, or an error is returned with the memory unchanged. -/
  answer : out = none ∨ ∃ error, out = some (.error error) ∧ t.ram = s.ram

/-- The call committed a text under a revision. -/
structure Taken (lib : JsonLibrary α) (raw : String) (revision : ℕ) (s t : Store)
    (out : Returned (Except String Unit)) : Prop where
  /-- A boot finds the new configuration. -/
  nvs : afterReboot lib t.nvs = some (raw, revision)
  /-- The pointer has been written once. -/
  pointerWrites : t.nvs.pointerWrites = s.nvs.pointerWrites + 1
  /-- The power has failed, or the configuration is activated and returned. -/
  answer : (out = none ∧ t.activations = s.activations) ∨
    (out = some (.ok ()) ∧ ramActive t.ram = some (raw, revision) ∧
      t.activations = if s.ram.activatedCallback then s.activations ++ [(revision, raw)]
        else s.activations)

/-- A commit that stopped has not touched the selected slot. -/
theorem stopped_selected (lib : JsonLibrary α) {raw : String} {nvs t : Nvs}
    (h : Stopped (otherSlot (selectedSlot nvs)) raw nvs t) :
    selectedSlot t = selectedSlot nvs ∧
      loadSlot lib t (selectedSlot t) = loadSlot lib nvs (selectedSlot nvs) := by
  have hslot : selectedSlot t = selectedSlot nvs := by rw [selectedSlot, h.active, selectedSlot]
  refine ⟨hslot, ?_⟩
  rw [hslot, loadSlot, loadSlot]
  rcases h.slots with hslots | hslots
  · rw [hslots]
  · rw [hslots, Slots.get_set_other]

/-- A commit that is complete selects the text. -/
theorem committed_selected {slot : ℕ} {raw : String} {revision : ℕ} {nvs t : Nvs}
    (h : Committed lib slot raw revision nvs t) :
    selectedSlot t = slot ∧ loadSlot lib t (selectedSlot t) = some (raw, revision) := by
  have hslot : selectedSlot t = slot := by rw [selectedSlot, h.active, Option.getD_some]
  refine ⟨hslot, ?_⟩
  rw [hslot, loadSlot, h.slots, Slots.get_set]
  exact h.reads.2

/-- An activation keeps the store consistent and commits or changes nothing
that can be seen. -/
theorem activate_spec (faults : Faults) (raw : String) (revision : ℕ) (result : String)
    (hs : Consistent lib s) (hready : s.ram.configReady = true) :
    Consistent lib (activate lib faults raw revision result s).1 ∧
      (Kept lib s (activate lib faults raw revision result s).1
          (activate lib faults raw revision result s).2 ∨
        Taken lib raw revision s (activate lib faults raw revision result s).1
          (activate lib faults raw revision result s).2) := by
  obtain ⟨hactive, hload⟩ := hs.ready hready
  have hcases := commitSlot_cases lib faults (otherSlot s.ram.activeSlot) raw revision
    "configuration_pointer_write_failed" s.nvs
  unfold activate
  dsimp only
  generalize commitSlot lib faults (otherSlot s.ram.activeSlot) raw revision
    "configuration_pointer_write_failed" s.nvs = out at hcases
  obtain ⟨t, answer⟩ := out
  rw [hactive] at hcases
  rcases hcases with ⟨hstopped, hanswer⟩ | ⟨hcommitted, hanswer⟩
  · obtain ⟨hslot, hsame⟩ := stopped_selected lib hstopped
    have hnvs := afterReboot_congr hs.pointer hload hslot hsame
    have hkept (ram : Ram) (hram : ram.configReady = false ∨ ram = s.ram) :
        Consistent lib { s with nvs := t, ram := ram } := by
      refine ⟨hslot ▸ hs.pointer, fun hblank => ?_, fun hok => ?_⟩
      · rw [hsame, hload] at hblank
        cases hblank
      · rcases hram with hram | rfl
        · rw [hram] at hok
          cases hok
        · exact ⟨hactive.trans hslot.symm, hsame.trans hload⟩
    obtain _ | (error | verified) := answer
    · exact ⟨hkept {} (.inl rfl), .inl ⟨hnvs, hstopped.pointerWrites, rfl, .inl rfl⟩⟩
    · exact ⟨hkept s.ram (.inr rfl),
        .inl ⟨hnvs, hstopped.pointerWrites, rfl, .inr ⟨error, rfl, rfl⟩⟩⟩
    · exact absurd rfl (hanswer verified)
  · obtain ⟨hslot, hnew⟩ := committed_selected hcommitted
    have hpointer : selectedSlot t ≤ 1 := hslot ▸ otherSlot_le _
    have hnvs := afterReboot_selected hpointer hnew
    have hblank (hnone : loadSlot lib t (selectedSlot t) = none) : False := by
      rw [hnew] at hnone
      cases hnone
    rcases hanswer with rfl | rfl
    · exact ⟨⟨hpointer, fun hnone => (hblank hnone).elim, fun hok => by cases hok⟩,
        .inr ⟨hnvs, hcommitted.pointerWrites, .inl ⟨rfl, rfl⟩⟩⟩
    · refine ⟨⟨hpointer, fun hnone => (hblank hnone).elim, fun _ => ⟨?_, hnew⟩⟩,
        .inr ⟨hnvs, hcommitted.pointerWrites, .inr ⟨rfl, ?_, rfl⟩⟩⟩
      · rw [hslot, ← hactive]
      · exact if_pos hready

/-! ### What a boot can do -/

/-- What a boot leaves of the document that was active before it. -/
structure Booted (lib : JsonLibrary α) (s t : Store) : Prop where
  /-- The store is consistent. -/
  consistent : Consistent lib t
  /-- A boot activates nothing by itself. -/
  activations : t.activations = s.activations
  /-- It keeps what it finds. -/
  nvs : ∀ active, afterReboot lib s.nvs = some active → afterReboot lib t.nvs = some active
  /-- Only a store without any document is written, and gets the default one. -/
  slots : t.nvs = s.nvs ∨ (selectedSlot t.nvs = 0 ∧ loadSlot lib t.nvs 1 = none ∧
    (t.nvs.slots.get 0 = s.nvs.slots.get 0 ∨
      t.nvs.slots.get 0 = cString (defaultConfiguration lib)))

/-- A boot that writes nothing and fails. -/
theorem booted_of_forget {t : Store} (hs : Consistent lib s) (hnvs : t.nvs = s.nvs)
    (hready : t.ram.configReady = false) (hactivations : t.activations = s.activations) :
    Booted lib s t where
  consistent := hs.forget hnvs hready
  activations := hactivations
  nvs := by
    intro active h
    rw [hnvs]
    exact h
  slots := .inl hnvs

/-- The preferences between the two writes of a default document: no slot, or
the first one with the default document, can be loaded. -/
theorem booted_of_stopped {t : Store} (hs : Consistent lib s)
    (hnone : loadSlot lib s.nvs (selectedSlot s.nvs) = none)
    (hstopped : Stopped 0 (defaultConfiguration lib) s.nvs t.nvs)
    (hready : t.ram.configReady = false) (hactivations : t.activations = s.activations) :
    Booted lib s t := by
  obtain ⟨hzero, hother, _⟩ := hs.blank hnone
  have hslot : selectedSlot t.nvs = 0 := by
    rw [← hzero, selectedSlot, hstopped.active, selectedSlot]
  have hslot1 : loadSlot lib t.nvs 1 = none := by
    rw [loadSlot]
    rcases hstopped.slots with hslots | hslots
    · rw [hslots]
      exact hother
    · rw [hslots]
      exact hother
  refine ⟨⟨by omega, fun _ => ⟨hslot, hslot1, hready⟩, fun h => ?_⟩, hactivations, ?_,
    .inr ⟨hslot, hslot1, ?_⟩⟩
  · rw [hready] at h
    cases h
  · intro active hactive
    obtain ⟨hreads, rfl⟩ := (afterReboot_blank hzero (hzero ▸ hnone) hother active).mp hactive
    rcases hstopped.slots with hslots | hslots
    · refine (afterReboot_blank hslot ?_ hslot1 _).mpr ⟨hreads, rfl⟩
      rw [loadSlot, hslots]
      exact hzero ▸ hnone
    · refine afterReboot_selected (by omega) ?_
      rw [hslot, loadSlot, hslots, Slots.get_set, hreads.1]
      exact hreads.2
  · rcases hstopped.slots with hslots | hslots
    · exact .inl (by rw [hslots])
    · exact .inr (by rw [hslots, Slots.get_set])

/-- The preferences once the default document is selected. -/
theorem booted_of_committed {nvs : Nvs} {t : Store} (hs : Consistent lib s)
    (hnone : loadSlot lib s.nvs (selectedSlot s.nvs) = none)
    (hcommitted : Committed lib 0 (defaultConfiguration lib) 0 s.nvs nvs)
    (hactive : t.nvs.active = nvs.active) (hslot0 : t.nvs.slots.get 0 = nvs.slots.get 0)
    (hslot1 : t.nvs.slots.get 1 = nvs.slots.get 1 ∨ t.nvs.slots.get 1 = "")
    (hram : t.ram.configReady = true → t.ram.activeSlot = 0 ∧
      t.ram.activeRaw = defaultConfiguration lib ∧ t.ram.activeRevision = 0)
    (hactivations : t.activations = s.activations) : Booted lib s t := by
  obtain ⟨hzero, hother, _⟩ := hs.blank hnone
  obtain ⟨hcommittedSlot, hload⟩ := committed_selected hcommitted
  have hslot : selectedSlot t.nvs = 0 := by
    rw [← hcommittedSlot, selectedSlot, hactive, selectedSlot]
  have hdefault : loadSlot lib t.nvs (selectedSlot t.nvs) = some (defaultConfiguration lib, 0) := by
    rw [hslot, loadSlot, hslot0, ← hload, hcommittedSlot, loadSlot]
  refine ⟨⟨by omega, fun h => ?_, fun h => ?_⟩, hactivations, ?_, .inr ⟨hslot, ?_, .inr ?_⟩⟩
  · rw [hdefault] at h
    cases h
  · obtain ⟨hactiveSlot, hraw, hrevision⟩ := hram h
    refine ⟨by rw [hactiveSlot, hslot], ?_⟩
    rw [hdefault, hraw, hrevision]
  · intro active h
    obtain ⟨_, rfl⟩ := (afterReboot_blank hzero (hzero ▸ hnone) hother active).mp h
    exact afterReboot_selected (by omega) hdefault
  · rw [loadSlot]
    rcases hslot1 with hslot1 | hslot1
    · rw [hslot1, hcommitted.slots]
      exact hother
    · rw [hslot1]
      rfl
  · rw [hslot0, hcommitted.slots, Slots.get_set, hcommitted.reads.1]

/-- A boot leaves the active document alone, whatever it meets. -/
theorem begin_spec (faults : Faults) (hs : Consistent lib s) :
    Booted lib s (begin lib faults s).1 := by
  unfold begin
  by_cases hlocks : (!faults.locks) = true
  · rw [if_pos hlocks]
    exact ⟨hs, rfl, fun _ h => h, .inl rfl⟩
  rw [if_neg hlocks]
  by_cases hopens : (!faults.opens) = true
  · rw [if_pos hopens]
    exact booted_of_forget hs rfl rfl rfl
  rw [if_neg hopens]
  have hpointer : s.nvs.active.getD 0 ≤ 1 := hs.pointer
  dsimp only
  rw [if_pos hpointer]
  cases hload : loadSlot lib s.nvs (s.nvs.active.getD 0) with
  | some active =>
    refine ⟨⟨hs.pointer, fun h => ?_, fun _ => ⟨rfl, hload⟩⟩, rfl, fun _ h => h, .inl rfl⟩
    change loadSlot lib s.nvs (s.nvs.active.getD 0) = none at h
    rw [hload] at h
    cases h
  | none =>
    obtain ⟨hzero, hother, _⟩ := hs.blank hload
    have hfallback : otherSlot (s.nvs.active.getD 0) = 1 := by
      change s.nvs.active.getD 0 = 0 at hzero
      rw [hzero]
      rfl
    rw [hfallback, hother]
    dsimp only
    -- the other slot has no document either: the default one is committed
    have hcases := commitSlot_cases lib faults 0 (defaultConfiguration lib) 0
      "default_pointer_write_failed" s.nvs
    generalize commitSlot lib faults 0 (defaultConfiguration lib) 0 "default_pointer_write_failed"
      s.nvs = out at hcases
    obtain ⟨nvs, answer⟩ := out
    rcases hcases with ⟨hstopped, hanswer⟩ | ⟨hcommitted, rfl | rfl⟩
    · obtain _ | (error | verified) := answer
      · exact booted_of_stopped hs hload hstopped rfl rfl
      · exact booted_of_stopped hs hload hstopped rfl rfl
      · exact absurd rfl (hanswer verified)
    · exact booted_of_committed hs hload hcommitted rfl rfl (.inl rfl) (fun h => by cases h) rfl
    · have hbooted (t : Store) := booted_of_committed (t := t) hs hload hcommitted
      have hram (_ : true = true) : (0 : ℕ) = 0 ∧
          defaultConfiguration lib = defaultConfiguration lib ∧ (0 : ℕ) = 0 := ⟨rfl, rfl, rfl⟩
      cases faults.removal with
      | cutBefore => exact hbooted _ rfl rfl (.inl rfl) (fun h => by cases h) rfl
      | cutAfter => exact hbooted _ rfl rfl (.inr rfl) (fun h => by cases h) rfl
      | fails => exact hbooted _ rfl rfl (.inl rfl) hram rfl
      | done => exact hbooted _ rfl rfl (.inr rfl) hram rfl

/-! ### What every step keeps -/

/-- An apply or a rollback that finds no text to commit changes nothing. -/
theorem kept_of_refused (error : String) (s : Store) :
    Kept lib s s (some (.error error)) := ⟨rfl, rfl, rfl, .inr ⟨error, rfl, rfl⟩⟩

/-- The revision after the active one, on a store that is ready. -/
theorem nextRevision_eq_ok {faults : Faults} {ram : Ram} {revision : ℕ}
    (h : nextRevision faults ram = .ok revision) :
    ram.configReady = true ∧ revision = ram.activeRevision + 1 := by
  unfold nextRevision at h
  simp only [bind_eq_ok, refuseIf_eq_ok, Bool.or_eq_false_iff, Bool.not_eq_false'] at h
  obtain ⟨_, ⟨_, hready⟩, _, _, hrevision⟩ := h
  cases hrevision
  exact ⟨hready, rfl⟩

/-- A text to commit goes with the next revision and has passed the validator. -/
theorem applyText_eq_ok {faults : Faults} {candidateJson : String} {ram : Ram} {revision : ℕ}
    {text : String} (h : applyText lib faults candidateJson ram = .ok (revision, text)) :
    nextRevision faults ram = .ok revision ∧ checkSemantics ram.ruleValidator text = .ok () ∧
      canonicalizeCandidate lib candidateJson revision = .ok text := by
  unfold applyText at h
  simp only [bind_eq_ok] at h
  obtain ⟨next, hnext, canonical, hcanonical, _, hchecked, hout⟩ := h
  cases hout
  exact ⟨hnext, hchecked, hcanonical⟩

/-- A rollback commits the other slot's document under the next revision. -/
theorem rollbackTo_eq_ok {faults : Faults} {revision : ℕ} {text : String}
    (h : rollbackTo lib faults s = .ok (revision, text)) :
    nextRevision faults s.ram = .ok revision ∧ checkSemantics s.ram.ruleValidator text = .ok () ∧
      ∃ previous, loadSlot lib s.nvs (otherSlot s.ram.activeSlot) = some previous ∧
        rollbackText lib previous.1 revision = .ok text := by
  unfold rollbackTo at h
  simp only [bind_eq_ok, orRefuse_eq_ok] at h
  obtain ⟨next, hnext, previous, hprevious, rollbackRaw, hrollback, _, hchecked, hout⟩ := h
  cases hout
  exact ⟨hnext, hchecked, previous, hprevious, hrollback⟩

/-- What is intended is what the call writes. -/
theorem writes_of_intended {e : Event} {revision : ℕ} {text : String}
    (h : intended lib s e = .ok (revision, text)) : Writes lib s revision e text := by
  cases e with
  | apply faults candidateJson =>
    obtain ⟨-, -, hcanonical⟩ := applyText_eq_ok h
    unfold canonicalizeCandidate at hcanonical
    simp only [bind_eq_ok, refuseIf_eq_ok, orRefuse_eq_ok] at hcanonical
    obtain ⟨_, _, document, hread, _, hvalid, _, _, hout⟩ := hcanonical
    cases hout
    exact .candidate hread hvalid
  | rollback faults =>
    obtain ⟨-, -, previous, hprevious, hrollback⟩ := rollbackTo_eq_ok h
    rw [loadText_fst hprevious] at hrollback
    unfold rollbackText at hrollback
    simp only [bind_eq_ok, refuseIf_eq_ok, orRefuse_eq_ok] at hrollback
    obtain ⟨document, hread, _, hvalid, _, _, hout⟩ := hrollback
    cases hout
    exact .previous hread hvalid
  | begin faults => cases h
  | setLifecycleCallbacks locks validator activated => cases h
  | reboot => cases h

/-- What a call of `apply` or `rollback` does: it finds no text to commit, or it sets
out to commit one under the next revision. -/
inductive Called (lib : JsonLibrary α) (s : Store) (e : Event) : Prop where
  | refused (error : String) (step : step lib s e = s)
      (answer : returned lib s e = some (.error error))
  | activates (faults : Faults) (revision : ℕ) (raw result : String)
      (next : nextRevision faults s.ram = .ok revision)
      (checked : checkSemantics s.ram.ruleValidator raw = .ok ())
      (intends : intended lib s e = .ok (revision, raw))
      (step : step lib s e = (activate lib faults raw revision result s).1)
      (answer : returned lib s e = (activate lib faults raw revision result s).2)

/-- An apply is refused, or activates the canonical text. -/
theorem called_apply (lib : JsonLibrary α) (s : Store) (faults : Faults) (candidateJson : String) :
    Called lib s (.apply faults candidateJson) := by
  cases htext : applyText lib faults candidateJson s.ram with
  | error error =>
    exact .refused error (by rw [step, apply, htext]) (by rw [returned, apply, htext])
  | ok out =>
    obtain ⟨revision, canonical⟩ := out
    obtain ⟨hnext, hchecked, -⟩ := applyText_eq_ok htext
    exact .activates faults revision canonical "applied" hnext hchecked htext
      (by rw [step, apply, htext]) (by rw [returned, apply, htext])

/-- A rollback is refused, or activates the text of the other slot. -/
theorem called_rollback (lib : JsonLibrary α) (s : Store) (faults : Faults) :
    Called lib s (.rollback faults) := by
  cases htext : rollbackTo lib faults s with
  | error error =>
    exact .refused error (by rw [step, rollback, htext]) (by rw [returned, rollback, htext])
  | ok out =>
    obtain ⟨revision, rollbackRaw⟩ := out
    obtain ⟨hnext, hchecked, -⟩ := rollbackTo_eq_ok htext
    exact .activates faults revision rollbackRaw "rolled_back" hnext hchecked htext
      (by rw [step, rollback, htext]) (by rw [returned, rollback, htext])

/-- Only calls return. -/
theorem called_of_returned {e : Event} {answer : Except String Unit}
    (h : returned lib s e = some answer) : Called lib s e := by
  cases e with
  | begin faults => cases h
  | setLifecycleCallbacks locks validator activated => cases h
  | reboot => cases h
  | apply faults candidateJson => exact called_apply lib s faults candidateJson
  | rollback faults => exact called_rollback lib s faults

/-- A call that is refused leaves memory alone. -/
theorem step_ram_of_error {e : Event} {error : String}
    (h : returned lib s e = some (.error error)) : (step lib s e).ram = s.ram := by
  rcases called_of_returned h with ⟨_, hstep, _⟩ | ⟨_, _, _, _, _, _, _, hstep, hanswer⟩
  · rw [hstep]
  · rw [hstep]
    exact activate_ram_of_error (hanswer.symm.trans h)

/-- What one event does: it commits the text that it set out to commit, or
keeps the document, or is a boot or an event between two calls. -/
inductive Stepped (lib : JsonLibrary α) (s : Store) (e : Event) : Prop where
  | quiet (h : Booted lib s (step lib s e)) (answer : returned lib s e = none)
      (pointer : (step lib s e).nvs.pointerWrites = s.nvs.pointerWrites ∨
        ∃ faults, e = .begin faults)
  | kept (h : Kept lib s (step lib s e) (returned lib s e))
  | taken (ready : s.ram.configReady = true) (raw : String)
      (intends : intended lib s e = .ok (s.ram.activeRevision + 1, raw))
      (h : Taken lib raw (s.ram.activeRevision + 1) s (step lib s e) (returned lib s e))

/-- A call keeps the store consistent, whether it finds a text to commit or not. -/
theorem stepped_of_called {e : Event} (hs : Consistent lib s) (h : Called lib s e) :
    Consistent lib (step lib s e) ∧ Stepped lib s e := by
  rcases h with ⟨error, hstep, hanswer⟩ |
      ⟨faults, revision, raw, result, hnext, _, hintends, hstep, hanswer⟩
  · refine ⟨by rwa [hstep], .kept ?_⟩
    rw [hstep, hanswer]
    exact kept_of_refused error s
  · obtain ⟨hready, rfl⟩ := nextRevision_eq_ok hnext
    obtain ⟨hconsistent, hdone⟩ := activate_spec faults raw _ result hs hready
    rw [← hstep] at hconsistent
    rw [← hstep, ← hanswer] at hdone
    refine ⟨hconsistent, ?_⟩
    rcases hdone with hkept | htaken
    · exact .kept hkept
    · exact .taken hready raw hintends htaken

/-- The step lemma: every event keeps the store consistent. -/
theorem step_spec (hs : Consistent lib s) (e : Event) :
    Consistent lib (step lib s e) ∧ Stepped lib s e := by
  cases e with
  | begin faults =>
    have hbooted := begin_spec faults hs
    exact ⟨hbooted.consistent, .quiet hbooted rfl (.inr ⟨faults, rfl⟩)⟩
  | apply faults candidateJson =>
    exact stepped_of_called hs (called_apply lib s faults candidateJson)
  | rollback faults => exact stepped_of_called hs (called_rollback lib s faults)
  | setLifecycleCallbacks locks validator activated =>
    have hnvs : (setLifecycleCallbacks locks validator activated s).nvs = s.nvs := by
      unfold setLifecycleCallbacks
      cases locks <;> rfl
    have hbooted : Booted lib s (setLifecycleCallbacks locks validator activated s) := by
      unfold setLifecycleCallbacks
      cases locks with
      | false => exact ⟨hs, rfl, fun _ h => h, .inl rfl⟩
      | true => exact ⟨⟨hs.pointer, hs.blank, hs.ready⟩, rfl, fun _ h => h, .inl rfl⟩
    exact ⟨hbooted.consistent, .quiet hbooted rfl (.inl (by rw [step, hnvs]))⟩
  | reboot =>
    have hbooted : Booted lib s (s.powerLost s.nvs) := booted_of_forget hs rfl rfl rfl
    exact ⟨hbooted.consistent, .quiet hbooted rfl (.inl rfl)⟩

/-- Erased preferences are consistent. -/
theorem erased_consistent (lib : JsonLibrary α) : Consistent lib {} where
  pointer := Nat.zero_le 1
  blank := fun _ => ⟨rfl, rfl, rfl⟩
  ready := fun h => by cases h

/-- Every run from erased preferences keeps the store consistent. -/
theorem run_consistent (lib : JsonLibrary α) (events : List Event) :
    Consistent lib (run (step lib) {} events) :=
  run_invariant (I := Consistent lib) (fun _ e hs => (step_spec hs e).1) (erased_consistent lib)
    events

/-- One event leaves the active document alone or commits the intended text. -/
theorem step_active (hs : Consistent lib s) (e : Event) {active : String × ℕ}
    (hactive : afterReboot lib s.nvs = some active) :
    (afterReboot lib (step lib s e).nvs = some active ∧
        ((step lib s e).nvs.pointerWrites = s.nvs.pointerWrites ∨ ∃ faults, e = .begin faults)) ∨
      ∃ text, intended lib s e = .ok (active.2 + 1, text) ∧ Writes lib s (active.2 + 1) e text ∧
        (step lib s e).nvs.pointerWrites = s.nvs.pointerWrites + 1 ∧
        afterReboot lib (step lib s e).nvs = some (text, active.2 + 1) := by
  rcases (step_spec hs e).2 with ⟨hbooted, _, hpointer⟩ | hkept | ⟨hready, raw, hintends, htaken⟩
  · exact .inl ⟨hbooted.nvs active hactive, hpointer⟩
  · exact .inl ⟨hkept.nvs.trans hactive, .inl hkept.pointerWrites⟩
  · have hram := hs.ramActive hready
    rw [hactive, ramActive, if_pos hready] at hram
    cases hram
    exact .inr ⟨raw, hintends, writes_of_intended hintends, htaken.pointerWrites, htaken.nvs⟩

/-- Along a run the active document stays, or its revision grows. -/
theorem run_active (hs : Consistent lib s) (events : List Event) {active : String × ℕ}
    (hactive : afterReboot lib s.nvs = some active) :
    ∃ later, afterReboot lib (run (step lib) s events).nvs = some later ∧
      (later = active ∨ active.2 < later.2) := by
  induction events generalizing s active with
  | nil => exact ⟨active, hactive, .inl rfl⟩
  | cons e events ih =>
    have hnext := (step_spec hs e).1
    rcases step_active hs e hactive with ⟨hsame, _⟩ | ⟨text, _, _, _, hnew⟩
    · exact ih hnext hsame
    · obtain ⟨later, hlater, horder⟩ := ih hnext hnew
      refine ⟨later, hlater, .inr ?_⟩
      rcases horder with rfl | horder
      · exact Nat.lt_succ_self _
      · exact Nat.lt_of_succ_lt horder

/-- Crash safety, in every state that a run from erased preferences reaches and
for every event with every fault: what is in memory is what a boot loads; the
active document changes only with the pointer, to the text that the call set out
to commit under the next revision, which is the canonical text of its candidate or
the document of the other slot; a refusal changes nothing; and no revision is ever
used for two documents. -/
theorem commit_crashSafe (lib : JsonLibrary α) (events : List Event) (e : Event) :
    let s := run (step lib) {} events
    let t := step lib s e
    (s.ram.configReady = true → ramActive s.ram = afterReboot lib s.nvs) ∧
    (∀ active, afterReboot lib s.nvs = some active →
      (afterReboot lib t.nvs = some active ∧
          (t.nvs.pointerWrites = s.nvs.pointerWrites ∨ ∃ faults, e = .begin faults)) ∨
        ∃ text, intended lib s e = .ok (active.2 + 1, text) ∧
          Writes lib s (active.2 + 1) e text ∧
          t.nvs.pointerWrites = s.nvs.pointerWrites + 1 ∧
          afterReboot lib t.nvs = some (text, active.2 + 1)) ∧
    (∀ error, returned lib s e = some (.error error) →
      t.ram = s.ram ∧ t.activations = s.activations ∧
        t.nvs.pointerWrites = s.nvs.pointerWrites ∧ afterReboot lib t.nvs = afterReboot lib s.nvs) ∧
    (returned lib s e = some (.ok ()) →
      t.nvs.pointerWrites = s.nvs.pointerWrites + 1 ∧
        ramActive t.ram = afterReboot lib t.nvs) ∧
    ∀ earlier later raw raw' revision, events = earlier ++ later →
      afterReboot lib (run (step lib) {} earlier).nvs = some (raw, revision) →
      afterReboot lib s.nvs = some (raw', revision) → raw = raw' := by
  intro s t
  have hs : Consistent lib s := run_consistent lib events
  have hstep := (step_spec hs e).2
  refine ⟨hs.ramActive, fun active hactive => step_active hs e hactive, ?_, ?_, ?_⟩
  · intro error herror
    rcases hstep with ⟨_, hanswer, _⟩ | hkept | ⟨_, _, _, htaken⟩
    · rw [hanswer] at herror
      cases herror
    · rcases hkept.answer with hnone | ⟨_, _, hram⟩
      · rw [hnone] at herror
        cases herror
      · exact ⟨hram, hkept.activations, hkept.pointerWrites, hkept.nvs⟩
    · rcases htaken.answer with ⟨hanswer, _⟩ | ⟨hanswer, _, _⟩
      · rw [hanswer] at herror
        cases herror
      · rw [hanswer] at herror
        cases herror
  · intro hok
    rcases hstep with ⟨_, hanswer, _⟩ | hkept | ⟨_, _, _, htaken⟩
    · rw [hanswer] at hok
      cases hok
    · rcases hkept.answer with hnone | ⟨_, hanswer, _⟩
      · rw [hnone] at hok
        cases hok
      · rw [hanswer] at hok
        cases hok
    · refine ⟨htaken.pointerWrites, ?_⟩
      rcases htaken.answer with ⟨hanswer, _⟩ | ⟨_, hram, _⟩
      · rw [hanswer] at hok
        cases hok
      · exact hram.trans htaken.nvs.symm
  · intro earlier later raw raw' revision hsplit hearlier hnow
    obtain ⟨active, hactive, horder⟩ :=
      run_active (run_consistent lib earlier) later hearlier
    rw [← run_append, ← hsplit] at hactive
    cases hactive.symm.trans hnow
    rcases horder with heq | hlt
    · cases heq
      rfl
    · exact absurd hlt (Nat.lt_irrefl _)

/-- A library whose documents differ in their revision only. -/
def revisionLibrary : JsonLibrary ℕ where
  deserializeJson _ raw :=
    ([0, 1, 2].find? fun revision => raw = toString revision).map fun revision =>
      .obj [("schema", .int 1), ("revision", .int revision), ("rules", .arr []),
        ("schedules", .arr [])]
  serializeJson document := toString ((document.member "revision").asUInt 32)
  setMember _ document key value := document.withMember key value

/-- An apply and a rollback are committed, a rollback whose pointer write fails is not, and
an apply that loses power behind the pointer write is. -/
example :
    let s := run (step revisionLibrary) {} [.begin {}, .apply {} "0"]
    let lost : Faults := { pointerWrite := .cutAfter }
    afterReboot revisionLibrary s.nvs = some ("1", 1) ∧
      returned revisionLibrary s (.rollback {}) = some (.ok ()) ∧
      afterReboot revisionLibrary (step revisionLibrary s (.rollback {})).nvs = some ("2", 2) ∧
      returned revisionLibrary s (.rollback { pointerWrite := .fails }) =
        some (.error "configuration_pointer_write_failed") ∧
      returned revisionLibrary s (.apply lost "0") = none ∧
      afterReboot revisionLibrary (step revisionLibrary s (.apply lost "0")).nvs =
        some ("2", 2) := by
  decide +kernel

end ProjEsp32.ConfigurationRuns
