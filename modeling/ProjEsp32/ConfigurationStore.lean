import ProjEsp32.ConfigurationDocument
import ProjEsp32.TwoSlots

/-!
# The configuration store

Two slots and an active pointer in the preferences, and a copy of the active
document in memory. A write of the preferences takes effect entirely or leaves
the old value, and power can be lost before or after any of them: what was in
memory is lost with it, and the call does not return. Which of these happens is
the `Faults` of a call.
-/

namespace ProjEsp32.ConfigurationStore

open ArduinoText ArduinoJson CheckedResult ConfigurationDocument TwoSlots

variable {α : Type}

/-- The greatest number of 32 bits. -/
def UINT32_MAX : ℕ := 2^32 - 1

/-- What becomes of one write of the preferences. -/
inductive Write where
  | done
  /-- The old value stays and the writer is told so. -/
  | fails
  /-- Power is lost before the write takes effect. -/
  | cutBefore
  /-- Power is lost after the write has taken effect. -/
  | cutAfter
  deriving DecidableEq

/-- The new value is stored. -/
def Write.takesEffect : Write → Bool
  | .done => true
  | .cutAfter => true
  | _ => false

/-- What a call meets. It writes each key once at most. -/
structure Faults where
  /-- The mutex is acquired in time. -/
  locks : Bool := true
  /-- The preferences can be opened. -/
  opens : Bool := true
  /-- What becomes of the text for a slot. -/
  slotWrite : Write := .done
  /-- The slot is read back as it is stored. -/
  readsBack : Bool := true
  /-- What becomes of the pointer. -/
  pointerWrite : Write := .done
  /-- What becomes of the removal of a slot. -/
  removal : Write := .done
  deriving DecidableEq

/-- The preferences: an absent slot is an empty text, an absent pointer none. -/
structure Nvs where
  /-- The texts of the two slots; empty when there is none. -/
  slots : Slots String := ⟨"", ""⟩
  /-- The pointer to the slot in use. -/
  active : Option ℕ := none
  /-- Writes of the pointer that have taken effect; nothing reads it. -/
  pointerWrites : ℕ := 0
  deriving DecidableEq

/-- The variables of the store. -/
structure Ram where
  /-- `begin` has found or written a configuration. -/
  configReady : Bool := false
  /-- The slot in use. -/
  activeSlot : ℕ := 0
  /-- Its text. -/
  activeRaw : String := ""
  /-- The revision that its text states. -/
  activeRevision : ℕ := 0
  /-- `begin` had to fall back. -/
  recoveredOnBoot : Bool := false
  /-- The result of the last call. -/
  lastResult : String := "never"
  /-- Who judges a configuration besides the store. -/
  ruleValidator : Option (String → Except String Unit) := none
  /-- There is an activation callback. -/
  activatedCallback : Bool := false

/-- The store, and the activation callbacks that it has run. -/
structure Store where
  /-- What outlives a reboot. -/
  nvs : Nvs := {}
  /-- What does not. -/
  ram : Ram := {}
  /-- What has been handed to the callback so far. -/
  activations : List (ℕ × String) := []

/-- What a call returns; nothing when power was lost. -/
abbrev Returned (ρ : Type) := Option ρ

/-- A text with its revision, when it is a valid stored document. -/
def loadText (lib : JsonLibrary α) (raw : String) : Option (String × ℕ) :=
  match parseStored lib raw with
  | .ok (_, revision) => some (raw, revision)
  | .error _ => none

/-- `loadSlot`: the document of a slot. -/
def loadSlot (lib : JsonLibrary α) (nvs : Nvs) (slot : ℕ) : Option (String × ℕ) :=
  loadText lib (nvs.slots.get slot)

/-- `putString` on a slot: what is stored ends at the first zero byte. -/
def Nvs.putSlot (nvs : Nvs) (slot : ℕ) (raw : String) : Nvs :=
  { nvs with slots := nvs.slots.set slot (cString raw) }

/-- `putUChar` on the active pointer. -/
def Nvs.putActive (nvs : Nvs) (slot : ℕ) : Nvs :=
  { nvs with active := some slot, pointerWrites := nvs.pointerWrites + 1 }

/-- Write a slot and read it back. -/
def persistSlotVerified (lib : JsonLibrary α) (faults : Faults) (slot : ℕ) (raw : String)
    (expectedRevision : ℕ) (nvs : Nvs) : Nvs × Returned (Except String String) :=
  match faults.slotWrite with
  | .cutBefore => (nvs, none)
  | .cutAfter => (nvs.putSlot slot raw, none)
  | .fails => (nvs, some (.error "configuration_slot_write_failed"))
  | .done =>
    let nvs := nvs.putSlot slot raw
    if (cString raw).length ≠ raw.length then
      (nvs, some (.error "configuration_slot_write_failed"))
    else
      match if faults.readsBack then loadSlot lib nvs slot else none with
      | none => (nvs, some (.error "configuration_slot_verify_failed"))
      | some (verified, revision) =>
        if revision ≠ expectedRevision then
          (nvs, some (.error "configuration_slot_verify_failed"))
        else (nvs, some (.ok verified))

/-- Write the pointer; false is a refused write. -/
def putActive (write : Write) (slot : ℕ) (nvs : Nvs) : Nvs × Returned Bool :=
  match write with
  | .cutBefore => (nvs, none)
  | .cutAfter => (nvs.putActive slot, none)
  | .fails => (nvs, some false)
  | .done => (nvs.putActive slot, some true)

/-- The two writes of a commit: the slot, and then the pointer. -/
def commitSlot (lib : JsonLibrary α) (faults : Faults) (slot : ℕ) (raw : String) (revision : ℕ)
    (pointerError : String) (nvs : Nvs) : Nvs × Returned (Except String String) :=
  match persistSlotVerified lib faults slot raw revision nvs with
  | (nvs, none) => (nvs, none)
  | (nvs, some (.error error)) => (nvs, some (.error error))
  | (nvs, some (.ok verified)) =>
    match putActive faults.pointerWrite slot nvs with
    | (nvs, none) => (nvs, none)
    | (nvs, some false) => (nvs, some (.error pointerError))
    | (nvs, some true) => (nvs, some (.ok verified))

/-- A boot ends with power: what was in memory is gone. -/
def Store.powerLost (s : Store) (nvs : Nvs) : Store := { s with nvs, ram := {} }

/-- `begin` does not find its way. -/
def Store.notReady (s : Store) (nvs : Nvs) (result : String) : Store × Returned Bool :=
  ({ s with nvs, ram := { s.ram with configReady := false, lastResult := result } }, some false)

/-- `begin` has loaded a slot. -/
def Store.loaded (s : Store) (nvs : Nvs) (slot : ℕ) (active : String × ℕ) (recovered : Bool)
    (result : String) : Store × Returned Bool :=
  ({ s with nvs, ram := { s.ram with configReady := true, activeSlot := slot, activeRaw := active.1
                                     activeRevision := active.2, recoveredOnBoot := recovered
                                     lastResult := result } }, some true)

/-- The removal of the second slot, whose answer is not looked at. -/
def removeSlot1 (write : Write) (nvs : Nvs) : Nvs × Returned Unit :=
  let removed := { nvs with slots := nvs.slots.set 1 "" }
  match write with
  | .cutBefore => (nvs, none)
  | .cutAfter => (removed, none)
  | .fails => (nvs, some ())
  | .done => (removed, some ())

/-- `begin`: the selected slot, the other one, or a default document. -/
def begin (lib : JsonLibrary α) (faults : Faults) (s : Store) : Store × Returned Bool :=
  if !faults.locks then (s, some false)
  else if !faults.opens then s.notReady s.nvs "nvs_open_failed"
  else
    let requestedSlot := s.nvs.active.getD 0
    match if requestedSlot ≤ 1 then loadSlot lib s.nvs requestedSlot else none with
    | some active => s.loaded s.nvs requestedSlot active false "loaded"
    | none =>
      let fallbackSlot := otherSlot requestedSlot
      match loadSlot lib s.nvs fallbackSlot with
      | some active =>
        match putActive faults.pointerWrite fallbackSlot s.nvs with
        | (nvs, none) => (s.powerLost nvs, none)
        | (nvs, some false) => s.notReady nvs "recovery_pointer_write_failed"
        | (nvs, some true) => s.loaded nvs fallbackSlot active true "recovered_previous_slot"
      | none =>
        match commitSlot lib faults 0 (defaultConfiguration lib) 0 "default_pointer_write_failed"
            s.nvs with
        | (nvs, none) => (s.powerLost nvs, none)
        | (nvs, some (.error error)) => s.notReady nvs error
        | (nvs, some (.ok verified)) =>
          match removeSlot1 faults.removal nvs with
          | (nvs, none) => (s.powerLost nvs, none)
          | (nvs, some _) => s.loaded nvs 0 (verified, 0) false "defaults_created"

/-- The semantic validator, if there is one; it need not give a reason. -/
def checkSemantics (validator : Option (String → Except String Unit)) (raw : String) :
    Except String Unit :=
  match validator with
  | none => .ok ()
  | some validate =>
    match validate raw with
    | .ok _ => .ok ()
    | .error error =>
      .error (if error.length != 0 then error else "configuration_rule_semantic_invalid")

/-- The tests that apply and rollback begin with: the next revision. -/
def nextRevision (faults : Faults) (ram : Ram) : Except String ℕ := do
  refuseIf (!faults.locks || !ram.configReady) "configuration_not_ready"
  refuseIf (ram.activeRevision == UINT32_MAX) "configuration_revision_exhausted"
  return ram.activeRevision + 1

/-- Commit a text to the inactive slot, use it and run the callback. -/
def activate (lib : JsonLibrary α) (faults : Faults) (raw : String) (revision : ℕ) (result : String)
    (s : Store) : Store × Returned (Except String Unit) :=
  let slot := otherSlot s.ram.activeSlot
  match commitSlot lib faults slot raw revision "configuration_pointer_write_failed" s.nvs with
  | (nvs, none) => (s.powerLost nvs, none)
  | (nvs, some (.error error)) => ({ s with nvs }, some (.error error))
  | (nvs, some (.ok verified)) =>
    ({ nvs
       ram := { s.ram with activeSlot := slot, activeRaw := verified, activeRevision := revision
                           recoveredOnBoot := false, lastResult := result }
       activations := if s.ram.activatedCallback then s.activations ++ [(revision, verified)]
         else s.activations }, some (.ok ()))

/-- The text that `apply` commits, and its revision. -/
def applyText (lib : JsonLibrary α) (faults : Faults) (candidateJson : String) (ram : Ram) :
    Except String (ℕ × String) := do
  let revision ← nextRevision faults ram
  let canonical ← canonicalizeCandidate lib candidateJson revision
  checkSemantics ram.ruleValidator canonical
  return (revision, canonical)

/-- `apply`: commit a candidate as the next revision. -/
def apply (lib : JsonLibrary α) (faults : Faults) (candidateJson : String) (s : Store) :
    Store × Returned (Except String Unit) :=
  match applyText lib faults candidateJson s.ram with
  | .error error => (s, some (.error error))
  | .ok (revision, canonical) => activate lib faults canonical revision "applied" s

/-- The text that `rollback` commits, and its revision. -/
def rollbackTo (lib : JsonLibrary α) (faults : Faults) (s : Store) :
    Except String (ℕ × String) := do
  let revision ← nextRevision faults s.ram
  let (previousRaw, _) ←
    orRefuse (loadSlot lib s.nvs (otherSlot s.ram.activeSlot)) "configuration_previous_missing"
  let rollbackRaw ← rollbackText lib previousRaw revision
  checkSemantics s.ram.ruleValidator rollbackRaw
  return (revision, rollbackRaw)

/-- `rollback`: commit the document of the other slot as the next revision. -/
def rollback (lib : JsonLibrary α) (faults : Faults) (s : Store) :
    Store × Returned (Except String Unit) :=
  match rollbackTo lib faults s with
  | .error error => (s, some (.error error))
  | .ok (revision, rollbackRaw) => activate lib faults rollbackRaw revision "rolled_back" s

/-- `setLifecycleCallbacks`. -/
def setLifecycleCallbacks (locks : Bool) (validator : Option (String → Except String Unit))
    (activated : Bool) (s : Store) : Store :=
  if !locks then s
  else { s with ram := { s.ram with ruleValidator := validator, activatedCallback := activated } }

/-! ### What a commit can do -/

/-- A loaded document is the text that was loaded. -/
theorem loadText_fst {lib : JsonLibrary α} {raw : String} {active : String × ℕ}
    (h : loadText lib raw = some active) : active.1 = raw := by
  unfold loadText at h
  split at h
  · cases h
    rfl
  · cases h

/-- What loads is a valid document. -/
theorem document_of_loadText {lib : JsonLibrary α} {raw : String} {active : String × ℕ}
    (h : loadText lib raw = some active) :
    ∃ document, lib.deserializeJson JSON_CAPACITY raw = some document ∧
      validateDocument document true = .ok () ∧
      active.2 = (document.member "revision").asUInt 32 := by
  unfold loadText at h
  split at h
  · rename_i document revision hparsed
    cases h
    unfold parseStored at hparsed
    simp only [bind_eq_ok, orRefuse_eq_ok] at hparsed
    obtain ⟨_, _, read, hread, _, hvalid, hout⟩ := hparsed
    cases hout
    exact ⟨document, hread, hvalid, rfl⟩
  · cases h

/-- The text reads back as a document of this revision. -/
def Reads (lib : JsonLibrary α) (raw : String) (revision : ℕ) : Prop :=
  cString raw = raw ∧ loadText lib raw = some (raw, revision)

/-- The commit of a text stopped before the pointer was written: nothing has
changed but, at most, the slot that was not in use. -/
structure Stopped (slot : ℕ) (raw : String) (before after : Nvs) : Prop where
  /-- The pointer is as before. -/
  active : after.active = before.active
  /-- It has not been written. -/
  pointerWrites : after.pointerWrites = before.pointerWrites
  /-- The slot has been written with the text, or not at all. -/
  slots : after.slots = before.slots ∨ after.slots = before.slots.set slot (cString raw)

/-- The pointer selects the slot with the text. -/
structure Committed (lib : JsonLibrary α) (slot : ℕ) (raw : String) (revision : ℕ)
    (before after : Nvs) : Prop where
  /-- The pointer names the slot. -/
  active : after.active = some slot
  /-- It has been written once. -/
  pointerWrites : after.pointerWrites = before.pointerWrites + 1
  /-- The slot holds the text. -/
  slots : after.slots = before.slots.set slot raw
  /-- The text reads back as this revision. -/
  reads : Reads lib raw revision

/-- Slot and read-back either stop or hand on to the pointer. -/
theorem persistSlotVerified_cases (lib : JsonLibrary α) (faults : Faults) (slot : ℕ) (raw : String)
    (revision : ℕ) (nvs : Nvs) :
    (Stopped slot raw nvs (persistSlotVerified lib faults slot raw revision nvs).1 ∧
      ∀ verified, (persistSlotVerified lib faults slot raw revision nvs).2 ≠ some (.ok verified)) ∨
    (Reads lib raw revision ∧
      persistSlotVerified lib faults slot raw revision nvs =
        ({ nvs with slots := nvs.slots.set slot raw }, some (.ok raw))) := by
  have hput : Stopped slot raw nvs (nvs.putSlot slot raw) := ⟨rfl, rfl, .inr rfl⟩
  unfold persistSlotVerified
  cases faults.slotWrite with
  | cutBefore => exact .inl ⟨⟨rfl, rfl, .inl rfl⟩, by simp⟩
  | cutAfter => exact .inl ⟨hput, by simp⟩
  | fails => exact .inl ⟨⟨rfl, rfl, .inl rfl⟩, by simp⟩
  | done =>
    dsimp only
    by_cases hlength : (cString raw).length ≠ raw.length
    · rw [if_pos hlength]
      exact .inl ⟨hput, by simp⟩
    · rw [if_neg hlength]
      have htext := cString_eq_of_length (not_not.mp hlength)
      have hslot : loadSlot lib (nvs.putSlot slot raw) slot = loadText lib raw := by
        simp [loadSlot, Nvs.putSlot, htext]
      rw [hslot]
      split
      · exact .inl ⟨hput, by simp⟩
      · rename_i verified readRevision hread
        have hload : loadText lib raw = some (verified, readRevision) := by
          cases hback : faults.readsBack with
          | true => simpa [hback] using hread
          | false => simp [hback] at hread
        obtain rfl : verified = raw := loadText_fst hload
        by_cases hrevision : readRevision ≠ revision
        · rw [if_pos hrevision]
          exact .inl ⟨hput, by simp⟩
        · rw [if_neg hrevision]
          rw [not_not.mp hrevision] at hload
          exact .inr ⟨⟨htext, hload⟩, by simp [Nvs.putSlot, htext]⟩

/-- A commit stops before the pointer is written or is complete; only then can
it hand the text back. -/
theorem commitSlot_cases (lib : JsonLibrary α) (faults : Faults) (slot : ℕ) (raw : String)
    (revision : ℕ) (pointerError : String) (nvs : Nvs) :
    (Stopped slot raw nvs (commitSlot lib faults slot raw revision pointerError nvs).1 ∧
      ∀ verified, (commitSlot lib faults slot raw revision pointerError nvs).2 ≠
        some (.ok verified)) ∨
    (Committed lib slot raw revision nvs
        (commitSlot lib faults slot raw revision pointerError nvs).1 ∧
      ((commitSlot lib faults slot raw revision pointerError nvs).2 = none ∨
        (commitSlot lib faults slot raw revision pointerError nvs).2 = some (.ok raw))) := by
  rcases persistSlotVerified_cases lib faults slot raw revision nvs with ⟨hstopped, hresult⟩ |
      ⟨hreads, heq⟩
  · left
    unfold commitSlot
    generalize persistSlotVerified lib faults slot raw revision nvs = out at hstopped hresult
    obtain ⟨t, _ | (error | verified)⟩ := out
    · exact ⟨hstopped, by simp⟩
    · exact ⟨hstopped, by simp⟩
    · exact absurd rfl (hresult verified)
  · have hslot : Stopped slot raw nvs { nvs with slots := nvs.slots.set slot raw } :=
      ⟨rfl, rfl, .inr (by rw [hreads.1])⟩
    unfold commitSlot
    rw [heq]
    cases hwrite : faults.pointerWrite with
    | cutBefore => exact .inl ⟨hslot, by simp [putActive]⟩
    | fails => exact .inl ⟨hslot, by simp [putActive]⟩
    | cutAfter => exact .inr ⟨⟨rfl, rfl, rfl, hreads⟩, .inl rfl⟩
    | done => exact .inr ⟨⟨rfl, rfl, rfl, hreads⟩, .inr rfl⟩

/-- An activation that returned has committed its text and uses it. -/
theorem activate_ok {lib : JsonLibrary α} {faults : Faults} {raw result : String} {revision : ℕ}
    {s : Store} (h : (activate lib faults raw revision result s).2 = some (.ok ())) :
    Reads lib raw revision ∧ ∃ nvs, (activate lib faults raw revision result s).1 =
      { nvs
        ram := { s.ram with
          activeSlot := otherSlot s.ram.activeSlot, activeRaw := raw, activeRevision := revision
          recoveredOnBoot := false, lastResult := result }
        activations := if s.ram.activatedCallback then s.activations ++ [(revision, raw)]
          else s.activations } := by
  have hcases := commitSlot_cases lib faults (otherSlot s.ram.activeSlot) raw revision
    "configuration_pointer_write_failed" s.nvs
  unfold activate at h ⊢
  dsimp only at h ⊢
  generalize commitSlot lib faults (otherSlot s.ram.activeSlot) raw revision
    "configuration_pointer_write_failed" s.nvs = out at h hcases ⊢
  obtain ⟨nvs, _ | (error | verified)⟩ := out
  · cases h
  · cases h
  · rcases hcases with ⟨_, hanswer⟩ | ⟨hcommitted, hanswer | hanswer⟩
    · exact absurd rfl (hanswer verified)
    · cases hanswer
    · cases hanswer
      exact ⟨hcommitted.reads, nvs, rfl⟩

/-- An activation that is refused leaves memory alone. -/
theorem activate_ram_of_error {lib : JsonLibrary α} {faults : Faults} {raw result error : String}
    {revision : ℕ} {s : Store}
    (h : (activate lib faults raw revision result s).2 = some (.error error)) :
    (activate lib faults raw revision result s).1.ram = s.ram := by
  unfold activate at h ⊢
  dsimp only at h ⊢
  generalize commitSlot lib faults (otherSlot s.ram.activeSlot) raw revision
    "configuration_pointer_write_failed" s.nvs = out at h ⊢
  obtain ⟨nvs, _ | (error | verified)⟩ := out
  · cases h
  · rfl
  · cases h

end ProjEsp32.ConfigurationStore
