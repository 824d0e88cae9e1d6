import ProjEsp32.ConfigurationRuns

/-!
# Recovery at boot

A boot with any preferences: the slot that the pointer selects, then the other
one, then a default document. The other slot of a pointer that selects neither is
the first one, so that a usable second slot is not found behind it.
-/

namespace ProjEsp32.ConfigurationRecovery

open ArduinoJson ConfigurationDocument ConfigurationRuns ConfigurationStore TwoSlots

variable {α : Type}

/-- The document that the pointer selects. -/
def selected (lib : JsonLibrary α) (nvs : Nvs) : Option (String × ℕ) :=
  if selectedSlot nvs ≤ 1 then loadSlot lib nvs (selectedSlot nvs) else none

/-- One of the two slots has a valid document. -/
def Usable (lib : JsonLibrary α) (nvs : Nvs) : Prop :=
  ∃ slot ≤ 1, (loadSlot lib nvs slot).isSome = true

/-- The slot is in use: with its content, and selected by the pointer. -/
def InUse (lib : JsonLibrary α) (before : Nvs) (slot : ℕ) (t : Store) : Prop :=
  t.nvs.active = some slot ∧ t.ram.activeSlot = slot ∧
    (loadSlot lib before slot).isSome = true ∧ ramActive t.ram = loadSlot lib before slot

/-- What a boot owes to the preferences that it finds. -/
structure Recovers (lib : JsonLibrary α) (faults : Faults) (s : Store) : Prop where
  /-- Only a store without a usable slot gets the default document. -/
  kept : Usable lib s.nvs → (begin lib faults s).1.nvs.slots = s.nvs.slots
  /-- A usable slot is found when the pointer does not select one. -/
  found : faults.locks = true → faults.opens = true → faults.pointerWrite = .done →
    Usable lib s.nvs → selected lib s.nvs = none →
      (begin lib faults s).2 = some true ∧
        ∃ slot ≤ 1, InUse lib s.nvs slot (begin lib faults s).1
  /-- The next boot loads the same document. -/
  again : (begin lib faults s).2 = some true → ∀ later, later.locks = true → later.opens = true →
    let t := (begin lib faults s).1
    let u := begin lib later (t.powerLost t.nvs)
    u.2 = some true ∧ ramActive u.1.ram = ramActive t.ram

/-- The pointer selects neither slot, and only the second one is usable. -/
def Misdirected (lib : JsonLibrary α) (nvs : Nvs) : Prop :=
  2 ≤ selectedSlot nvs ∧ loadSlot lib nvs 0 = none ∧ (loadSlot lib nvs 1).isSome = true

variable {lib : JsonLibrary α} {faults : Faults} {s : Store}

/-! ### The three ways of a boot -/

/-- What the start of the store does once it has the lock and the preferences. -/
theorem begin_locked (hlocks : faults.locks = true) (hopens : faults.opens = true) :
    begin lib faults s =
      match selected lib s.nvs with
      | some active => s.loaded s.nvs (selectedSlot s.nvs) active false "loaded"
      | none =>
        match loadSlot lib s.nvs (otherSlot (selectedSlot s.nvs)) with
        | some active =>
          match putActive faults.pointerWrite (otherSlot (selectedSlot s.nvs)) s.nvs with
          | (nvs, none) => (s.powerLost nvs, none)
          | (nvs, some false) => s.notReady nvs "recovery_pointer_write_failed"
          | (nvs, some true) =>
            s.loaded nvs (otherSlot (selectedSlot s.nvs)) active true "recovered_previous_slot"
        | none =>
          match commitSlot lib faults 0 (defaultConfiguration lib) 0 "default_pointer_write_failed"
              s.nvs with
          | (nvs, none) => (s.powerLost nvs, none)
          | (nvs, some (.error error)) => s.notReady nvs error
          | (nvs, some (.ok verified)) =>
            match removeSlot1 faults.removal nvs with
            | (nvs, none) => (s.powerLost nvs, none)
            | (nvs, some _) => s.loaded nvs 0 (verified, 0) false "defaults_created" := by
  unfold begin
  rw [hlocks, hopens]
  rfl

/-- A boot that finds no way. -/
theorem begin_blocked (h : faults.locks = false ∨ faults.opens = false) :
    (begin lib faults s).1.nvs = s.nvs ∧ (begin lib faults s).2 = some false := by
  unfold begin
  cases hlocks : faults.locks with
  | false => exact ⟨rfl, rfl⟩
  | true =>
    rw [hlocks] at h
    rcases h with h | hopens
    · cases h
    · rw [hopens]
      exact ⟨rfl, rfl⟩

/-- A boot has loaded a document that the pointer selects from now on. -/
structure Loaded (lib : JsonLibrary α) (t : Store) : Prop where
  /-- The pointer names one of the two slots. -/
  pointer : selectedSlot t.nvs ≤ 1
  /-- The store is in use. -/
  ready : t.ram.configReady = true
  /-- The slot in use is the one that the pointer names. -/
  slot : t.ram.activeSlot = selectedSlot t.nvs
  /-- It holds the active configuration. -/
  load : loadSlot lib t.nvs (selectedSlot t.nvs) = some (t.ram.activeRaw, t.ram.activeRevision)

/-- The boot after it loads the same document and writes nothing. -/
theorem Loaded.again {t : Store} (h : Loaded lib t) (hlocks : faults.locks = true)
    (hopens : faults.opens = true) :
    (begin lib faults (t.powerLost t.nvs)).2 = some true ∧
      ramActive (begin lib faults (t.powerLost t.nvs)).1.ram = ramActive t.ram := by
  have hselected : selected lib (t.powerLost t.nvs).nvs =
      some (t.ram.activeRaw, t.ram.activeRevision) := by
    unfold selected
    rw [Store.powerLost, if_pos h.pointer, h.load]
  rw [begin_locked hlocks hopens, hselected]
  refine ⟨rfl, ?_⟩
  rw [ramActive, ramActive, if_pos h.ready]
  rfl

/-- The pointer selects a usable slot. -/
theorem begin_selected (hlocks : faults.locks = true) (hopens : faults.opens = true)
    {active : String × ℕ} (h : selected lib s.nvs = some active) :
    (begin lib faults s).1.nvs = s.nvs ∧ Loaded lib (begin lib faults s).1 := by
  rw [begin_locked hlocks hopens, h]
  unfold selected at h
  split at h
  · rename_i hpointer
    exact ⟨rfl, hpointer, rfl, rfl, h⟩
  · cases h

/-- The other slot is usable. -/
theorem begin_other (hlocks : faults.locks = true) (hopens : faults.opens = true)
    (hselected : selected lib s.nvs = none) {active : String × ℕ}
    (h : loadSlot lib s.nvs (otherSlot (selectedSlot s.nvs)) = some active) :
    (begin lib faults s).1.nvs.slots = s.nvs.slots ∧
      ((begin lib faults s).2 = some true → Loaded lib (begin lib faults s).1) ∧
      (faults.pointerWrite = .done → (begin lib faults s).2 = some true ∧
        InUse lib s.nvs (otherSlot (selectedSlot s.nvs)) (begin lib faults s).1) := by
  rw [begin_locked hlocks hopens, hselected]
  dsimp only
  rw [h]
  dsimp only
  cases faults.pointerWrite with
  | cutBefore => exact ⟨rfl, by simp [putActive], by simp⟩
  | cutAfter => exact ⟨rfl, by simp [putActive], by simp⟩
  | fails => exact ⟨rfl, by simp [putActive, Store.notReady], by simp⟩
  | done =>
    refine ⟨rfl, fun _ => ⟨otherSlot_le _, rfl, rfl, h⟩, fun _ => ⟨rfl, rfl, rfl, ?_, ?_⟩⟩
    · rw [h]
      rfl
    · rw [h]
      rfl

/-- Neither slot that the boot looks at is usable: it stops, or it creates the
default document in the first slot. -/
theorem begin_created (hlocks : faults.locks = true) (hopens : faults.opens = true)
    (hselected : selected lib s.nvs = none)
    (hother : loadSlot lib s.nvs (otherSlot (selectedSlot s.nvs)) = none)
    (hdone : (begin lib faults s).2 = some true) :
    Loaded lib (begin lib faults s).1 ∧ (begin lib faults s).1.ram.activeSlot = 0 := by
  rw [begin_locked hlocks hopens, hselected] at hdone ⊢
  dsimp only at hdone ⊢
  rw [hother] at hdone ⊢
  dsimp only at hdone ⊢
  have hcases := commitSlot_cases lib faults 0 (defaultConfiguration lib) 0
    "default_pointer_write_failed" s.nvs
  generalize commitSlot lib faults 0 (defaultConfiguration lib) 0 "default_pointer_write_failed"
    s.nvs = out at hcases hdone ⊢
  obtain ⟨nvs, _ | (error | verified)⟩ := out
  · cases hdone
  · cases hdone
  · rcases hcases with ⟨_, hanswer⟩ | ⟨hcommitted, hanswer | hanswer⟩
    · exact absurd rfl (hanswer verified)
    · cases hanswer
    · cases hanswer
      obtain ⟨hslot, hload⟩ := committed_selected hcommitted
      dsimp only at hslot hload
      have hpointer : selectedSlot nvs ≤ 1 := by omega
      cases hremoval : faults.removal with
      | cutBefore =>
        rw [hremoval] at hdone
        cases hdone
      | cutAfter =>
        rw [hremoval] at hdone
        cases hdone
      | fails => exact ⟨⟨hpointer, rfl, hslot.symm, hload⟩, rfl⟩
      | done =>
        refine ⟨⟨hpointer, rfl, hslot.symm, ?_⟩, rfl⟩
        -- the slot that is removed is the other one
        rw [hslot] at hload
        change loadSlot lib { nvs with slots := nvs.slots.set 1 "" } (selectedSlot nvs) = _
        rw [hslot]
        exact hload

/-! ### What is recovered -/

/-- One of two indices is the selected one or the other one. -/
theorem eq_or_eq_otherSlot {slot index : ℕ} (hslot : slot ≤ 1) (hindex : index ≤ 1) :
    index = slot ∨ index = otherSlot slot := by
  unfold otherSlot
  split <;> omega

/-- A boot that is not misdirected finds a usable slot. -/
theorem found_of_usable (hmisdirected : ¬Misdirected lib s.nvs) (husable : Usable lib s.nvs)
    (hselected : selected lib s.nvs = none) :
    ∃ active, loadSlot lib s.nvs (otherSlot (selectedSlot s.nvs)) = some active := by
  rw [← Option.isSome_iff_exists]
  obtain ⟨slot, hslot, hload⟩ := husable
  unfold selected at hselected
  by_cases hpointer : selectedSlot s.nvs ≤ 1
  · rw [if_pos hpointer] at hselected
    rcases eq_or_eq_otherSlot hpointer hslot with rfl | rfl
    · rw [hselected] at hload
      cases hload
    · exact hload
  · have hother : otherSlot (selectedSlot s.nvs) = 0 := if_neg (by omega)
    rw [hother]
    cases hfirst : loadSlot lib s.nvs 0 with
    | some active => rfl
    | none =>
      have hsecond : slot = 1 := by
        by_contra hne
        obtain rfl : slot = 0 := by omega
        rw [hfirst] at hload
        cases hload
      exact absurd ⟨by omega, hfirst, hsecond ▸ hload⟩ hmisdirected

/-- The next boot loads what this one has loaded, whichever way it went. -/
theorem loaded_of_done (hdone : (begin lib faults s).2 = some true) :
    Loaded lib (begin lib faults s).1 := by
  by_cases hblocked : faults.locks = false ∨ faults.opens = false
  · rw [(begin_blocked hblocked).2] at hdone
    cases hdone
  · simp only [not_or, Bool.not_eq_false] at hblocked
    obtain ⟨hlocks, hopens⟩ := hblocked
    cases hselected : selected lib s.nvs with
    | some active => exact (begin_selected hlocks hopens hselected).2
    | none =>
      cases hother : loadSlot lib s.nvs (otherSlot (selectedSlot s.nvs)) with
      | some active => exact (begin_other hlocks hopens hselected hother).2.1 hdone
      | none => exact (begin_created hlocks hopens hselected hother hdone).1

/-- Preferences that are not misdirected are recovered. -/
theorem recovers_of_not_misdirected (h : ¬Misdirected lib s.nvs) (faults : Faults) :
    Recovers lib faults s where
  kept := by
    intro husable
    by_cases hblocked : faults.locks = false ∨ faults.opens = false
    · rw [(begin_blocked hblocked).1]
    · simp only [not_or, Bool.not_eq_false] at hblocked
      obtain ⟨hlocks, hopens⟩ := hblocked
      cases hselected : selected lib s.nvs with
      | some active => rw [(begin_selected hlocks hopens hselected).1]
      | none =>
        obtain ⟨active, hother⟩ := found_of_usable h husable hselected
        exact (begin_other hlocks hopens hselected hother).1
  found := by
    intro hlocks hopens hwrite husable hselected
    obtain ⟨active, hother⟩ := found_of_usable h husable hselected
    obtain ⟨hdone, hinUse⟩ := (begin_other hlocks hopens hselected hother).2.2 hwrite
    exact ⟨hdone, otherSlot (selectedSlot s.nvs), otherSlot_le _, hinUse⟩
  again := by
    intro hdone later hlocks hopens
    exact (loaded_of_done hdone).again hlocks hopens

/-- A boot recovers whatever the preferences hold, with any faults, if and only if
the pointer does not miss both slots in front of a usable second one. -/
theorem recovers_iff (lib : JsonLibrary α) (s : Store) :
    (∀ faults, Recovers lib faults s) ↔ ¬Misdirected lib s.nvs := by
  constructor
  · intro h hmisdirected
    obtain ⟨hpointer, hfirst, hsecond⟩ := hmisdirected
    have hselected : selected lib s.nvs = none := if_neg (by omega)
    have hother : otherSlot (selectedSlot s.nvs) = 0 := if_neg (by omega)
    obtain ⟨hdone, slot, -, -, hslot, hload, -⟩ :=
      (h {}).found rfl rfl rfl ⟨1, Nat.le_refl 1, hsecond⟩ hselected
    have hcreated := (begin_created rfl rfl hselected (hother ▸ hfirst) hdone).2
    obtain rfl : slot = 0 := hslot.symm.trans hcreated
    rw [hfirst] at hload
    cases hload
  · intro h faults
    exact recovers_of_not_misdirected h faults

/-- A library that reads the default document and a saved one. -/
def sampleLibrary : JsonLibrary ℕ where
  deserializeJson _ raw :=
    let document (revision : ℕ) : Json ℕ := .obj [("schema", .int 1), ("revision", .int revision),
      ("rules", .arr []), ("schedules", .arr [])]
    if raw = "default" then some (document 0)
    else if raw = "saved" then some (document 5)
    else none
  serializeJson _ := "default"
  setMember _ document key value := document.withMember key value

/-- A corrupt pointer and an absent first slot: the saved document is removed and
the default one takes its place. -/
theorem recovers_corruptPointer :
    let nvs : Nvs := { slots := ⟨"", "saved"⟩, active := some 2 }
    (loadSlot sampleLibrary nvs 1 = some ("saved", 5) ∧
      (begin sampleLibrary {} { nvs }).1.nvs.slots = ⟨"default", ""⟩ ∧
      ramActive (begin sampleLibrary {} { nvs }).1.ram = some ("default", 0)) ∧
    ¬∀ faults, Recovers sampleLibrary faults { nvs } := by
  intro nvs
  have hsaved : loadSlot sampleLibrary nvs 1 = some ("saved", 5) := by decide +kernel
  have hslots : (begin sampleLibrary {} { nvs }).1.nvs.slots = ⟨"default", ""⟩ := by decide +kernel
  have hactive : ramActive (begin sampleLibrary {} { nvs }).1.ram = some ("default", 0) := by
    decide +kernel
  refine ⟨⟨hsaved, hslots, hactive⟩, ?_⟩
  intro h
  have hkept := (h {}).kept ⟨1, Nat.le_refl 1, by rw [hsaved]; rfl⟩
  rw [hslots] at hkept
  exact absurd hkept (by decide)

end ProjEsp32.ConfigurationRecovery
