import ProjEsp32.ConfigurationRuns

/-!
# What a rollback restores

The documents that were active in turn, recorded beside the store. A rollback
commits what it finds in the slot that is not in use; that is the document that
was active before, unless an apply has written there and has not gone on to
select its document.
-/

namespace ProjEsp32.ConfigurationRollback

open ArduinoText ArduinoJson CheckedResult ConfigurationDocument ConfigurationStore
open ConfigurationRuns TransitionRuns TwoSlots

variable {α : Type}

/-- The contents of a text apart from its revision. -/
def payloadText (lib : JsonLibrary α) (raw : String) : Option (List (String × Json α)) :=
  (lib.deserializeJson JSON_CAPACITY raw).map payload

/-- What the firmware relies on when it prints a document that it has read. -/
structure Prints (lib : JsonLibrary α) : Prop where
  /-- A printed text has no zero byte. -/
  printed : ∀ document, cString (lib.serializeJson document) = lib.serializeJson document
  /-- A member that is set replaces no other member. -/
  setRevision : ∀ document value,
    payload (lib.setMember JSON_CAPACITY document "revision" value) = payload document
  /-- A document that was read from a printed text can be printed under another
  revision and read again, and has the same contents. -/
  reread : ∀ document read revision again,
    lib.deserializeJson JSON_CAPACITY (lib.serializeJson document) = some read →
    lib.deserializeJson JSON_CAPACITY
      (lib.serializeJson (lib.setMember JSON_CAPACITY read "revision" (.int revision))) =
        some again →
    payload again = payload (lib.setMember JSON_CAPACITY read "revision" (.int revision))

/-- The store, and the documents that have been active in it, in order. -/
structure Tracked (lib : JsonLibrary α) where
  /-- The configuration store. -/
  store : Store := {}
  /-- What has been active so far, oldest first. -/
  actives : List (String × ℕ) := (afterReboot lib {}).toList

/-- One event; a change of the active document is recorded. -/
def track (lib : JsonLibrary α) (s : Tracked lib) (e : Event) : Tracked lib where
  store := step lib s.store e
  actives :=
    if afterReboot lib (step lib s.store e).nvs = afterReboot lib s.store.nvs then s.actives
    else s.actives ++ (afterReboot lib (step lib s.store e).nvs).toList

/-- An apply either leaves the slot alone or goes on to select its document. -/
def Completes (lib : JsonLibrary α) (s : Store) : Event → Prop
  | .apply faults candidateJson => ∀ revision canonical,
    applyText lib faults candidateJson s.ram = .ok (revision, canonical) →
      faults.slotWrite.takesEffect = true →
        faults.slotWrite = .done ∧ faults.readsBack = true ∧ Reads lib canonical revision ∧
          faults.pointerWrite.takesEffect = true
  | _ => True

variable {lib : JsonLibrary α} {s : Tracked lib}

/-! ### Texts -/

/-- A stored text was printed by the library. -/
def Printed (lib : JsonLibrary α) (raw : String) : Prop :=
  ∃ document, raw = lib.serializeJson document

/-- The canonical text of a candidate is a printed document. -/
theorem canonicalizeCandidate_printed {candidateJson raw : String} {revision : ℕ}
    (h : canonicalizeCandidate lib candidateJson revision = .ok raw) : Printed lib raw := by
  unfold canonicalizeCandidate at h
  simp only [bind_eq_ok] at h
  obtain ⟨_, _, document, _, _, _, _, _, hout⟩ := h
  cases hout
  exact ⟨_, rfl⟩

/-- The text of a rollback is a printed document. -/
theorem rollbackText_printed {previousRaw raw : String} {revision : ℕ}
    (h : rollbackText lib previousRaw revision = .ok raw) : Printed lib raw := by
  unfold rollbackText at h
  simp only [bind_eq_ok] at h
  obtain ⟨document, _, _, _, _, _, hout⟩ := h
  cases hout
  exact ⟨_, rfl⟩

/-- A rollback prints the contents that it has read. -/
theorem rollbackText_payload (hlib : Prints lib) {previousRaw raw : String} {revision : ℕ}
    {active : String × ℕ} (hprinted : Printed lib previousRaw)
    (h : rollbackText lib previousRaw revision = .ok raw)
    (hload : loadText lib raw = some active) :
    payloadText lib raw = payloadText lib previousRaw := by
  obtain ⟨document, rfl⟩ := hprinted
  obtain ⟨again, hagain, -⟩ := document_of_loadText hload
  unfold rollbackText at h
  simp only [bind_eq_ok, orRefuse_eq_ok] at h
  obtain ⟨read, hread, _, _, _, _, hout⟩ := h
  cases hout
  have hsame := hlib.reread document read revision again hread hagain
  rw [hlib.setRevision] at hsame
  rw [payloadText, payloadText, hread, hagain, Option.map_some, Option.map_some, hsame]

/-! ### The source of a rollback -/

/-- What the store keeps for a rollback: a document in the slot that is not in
use has the contents of the one that was active before. -/
structure Sourced (lib : JsonLibrary α) (s : Tracked lib) : Prop where
  /-- The store is consistent. -/
  consistent : Consistent lib s.store
  /-- What a boot finds is what was active last. -/
  last : s.actives.getLast? = afterReboot lib s.store.nvs
  /-- A slot that loads holds what is printed of a document. -/
  printed : ∀ slot active, loadSlot lib s.store.nvs slot = some active →
    Printed lib (s.store.nvs.slots.get slot)
  /-- What the other slot holds has been active. -/
  source : ∀ stored,
    loadSlot lib s.store.nvs (otherSlot (selectedSlot s.store.nvs)) = some stored →
    ∃ earlier before current, s.actives = earlier ++ [before, current] ∧
      payloadText lib stored.1 = payloadText lib before.1

/-- A loaded slot holds the text that is loaded. -/
theorem loadSlot_fst {nvs : Nvs} {slot : ℕ} {active : String × ℕ}
    (h : loadSlot lib nvs slot = some active) : active.1 = nvs.slots.get slot :=
  loadText_fst h

/-- After a printed text was written, what loads was printed if it was before. -/
theorem printed_of_set {nvs t : Nvs} {raw : String} {slot index : ℕ} {active : String × ℕ}
    (hraw : Printed lib raw)
    (hprinted : ∀ index active, loadSlot lib nvs index = some active →
      Printed lib (nvs.slots.get index))
    (hslots : t.slots = nvs.slots.set slot raw) (hload : loadSlot lib t index = some active) :
    Printed lib (t.slots.get index) := by
  rw [loadSlot, hslots] at hload
  rw [hslots]
  by_cases hsame : (slot = 0 ↔ index = 0)
  · rw [Slots.get_set_of_same hsame]
    exact hraw
  · rw [Slots.get_set_of_not_same hsame] at hload ⊢
    exact hprinted index active hload

/-- Tracking leaves the store to its step. -/
@[simp] theorem track_store (e : Event) : (track lib s e).store = step lib s.store e := rfl

/-- A step that keeps the active document records nothing. -/
theorem track_actives_same {e : Event}
    (h : afterReboot lib (step lib s.store e).nvs = afterReboot lib s.store.nvs) :
    (track lib s e).actives = s.actives := if_pos h

/-- A step that leaves the preferences alone keeps the source. -/
theorem sourced_of_nvs {e : Event} (hs : Sourced lib s)
    (hnvs : (step lib s.store e).nvs = s.store.nvs) : Sourced lib (track lib s e) := by
  have hactives : (track lib s e).actives = s.actives := track_actives_same (by rw [hnvs])
  refine ⟨(step_spec hs.consistent e).1, ?_, ?_, ?_⟩
  · rw [hactives, hs.last, track_store, hnvs]
  · intro slot active hload
    rw [track_store, hnvs] at hload ⊢
    exact hs.printed slot active hload
  · intro stored hload
    rw [track_store, hnvs] at hload
    rw [hactives]
    exact hs.source stored hload

/-- A text that was committed leaves the old document in the other slot. -/
theorem sourced_of_committed {e : Event} {raw : String} {revision : ℕ} (hs : Sourced lib s)
    (hready : s.store.ram.configReady = true) (hprinted : Printed lib raw)
    (hrevision : revision = s.store.ram.activeRevision + 1)
    (h : Committed lib (otherSlot (selectedSlot s.store.nvs)) raw revision s.store.nvs
      (step lib s.store e).nvs) : Sourced lib (track lib s e) := by
  obtain ⟨_, hload⟩ := hs.consistent.ready hready
  obtain ⟨hslot, hnew⟩ := committed_selected h
  have hbefore := afterReboot_selected hs.consistent.pointer hload
  have hafter : afterReboot lib (step lib s.store e).nvs = some (raw, revision) :=
    afterReboot_selected (hslot ▸ otherSlot_le _) hnew
  have hactives : (track lib s e).actives = s.actives ++ [(raw, revision)] := by
    have hchanged : afterReboot lib (step lib s.store e).nvs ≠ afterReboot lib s.store.nvs := by
      rw [hafter, hbefore, hrevision]
      simp
    rw [track, if_neg hchanged, hafter, Option.toList_some]
  have hkept : loadSlot lib (step lib s.store e).nvs (selectedSlot s.store.nvs) =
      loadSlot lib s.store.nvs (selectedSlot s.store.nvs) := by
    rw [loadSlot, h.slots, Slots.get_set_other, loadSlot]
  refine ⟨(step_spec hs.consistent e).1, ?_, ?_, ?_⟩
  · rw [hactives, List.getLast?_concat]
    exact hafter.symm
  · intro slot active hslotLoad
    exact printed_of_set hprinted hs.printed h.slots hslotLoad
  · intro stored hstored
    have hcurrent : s.actives.getLast? =
        some (s.store.ram.activeRaw, s.store.ram.activeRevision) := hs.last.trans hbefore
    obtain ⟨earlier, hearlier⟩ := List.getLast?_eq_some_iff.mp hcurrent
    refine ⟨earlier, _, (raw, revision), by rw [hactives, hearlier, List.append_assoc]; rfl, ?_⟩
    rw [track_store, hslot, otherSlot_otherSlot hs.consistent.pointer, hkept, hload] at hstored
    cases hstored
    rfl

/-- A rollback that stopped leaves its source, or the same contents printed anew. -/
theorem sourced_of_stopped (hlib : Prints lib) {e : Event} {previous : String × ℕ} {raw : String}
    {revision : ℕ} (hs : Sourced lib s) (hready : s.store.ram.configReady = true)
    (hprevious : loadSlot lib s.store.nvs (otherSlot (selectedSlot s.store.nvs)) = some previous)
    (htext : rollbackText lib previous.1 revision = .ok raw)
    (h : Stopped (otherSlot (selectedSlot s.store.nvs)) raw s.store.nvs
      (step lib s.store e).nvs) : Sourced lib (track lib s e) := by
  obtain ⟨_, hload⟩ := hs.consistent.ready hready
  obtain ⟨hslot, hselected⟩ := stopped_selected lib h
  have hafter := afterReboot_congr hs.consistent.pointer hload hslot hselected
  have hactives : (track lib s e).actives = s.actives := track_actives_same hafter
  have hprinted : Printed lib raw := rollbackText_printed htext
  have hcString : cString raw = raw := by
    obtain ⟨document, rfl⟩ := hprinted
    exact hlib.printed document
  have hslots := h.slots
  rw [hcString] at hslots
  refine ⟨(step_spec hs.consistent e).1, by rw [hactives, hs.last]; exact hafter.symm, ?_, ?_⟩
  · intro slot active hslotLoad
    rcases hslots with hslots | hslots
    · rw [track_store, loadSlot, hslots] at hslotLoad
      rw [track_store, hslots]
      exact hs.printed slot active hslotLoad
    · exact printed_of_set hprinted hs.printed hslots hslotLoad
  · intro stored hstored
    obtain ⟨earlier, before, current, hsplit, hsame⟩ := hs.source previous hprevious
    refine ⟨earlier, before, current, hactives.trans hsplit, ?_⟩
    rw [← hsame]
    rw [track_store, hslot, loadSlot] at hstored
    rcases hslots with hslots | hslots
    · rw [hslots] at hstored
      rw [hprevious.symm.trans hstored |> Option.some.inj]
    · rw [hslots, Slots.get_set] at hstored
      have hsource := hs.printed _ previous hprevious
      rw [← loadSlot_fst hprevious] at hsource
      rw [loadText_fst hstored]
      exact rollbackText_payload hlib hsource htext hstored

/-- A boot keeps the source, or has none. -/
theorem sourced_of_booted (hlib : Prints lib) {e : Event} (hs : Sourced lib s)
    (h : Booted lib s.store (step lib s.store e)) : Sourced lib (track lib s e) := by
  rcases h.slots with hnvs | ⟨hselected, hslot1, hslot0⟩
  · exact sourced_of_nvs hs hnvs
  have hdefault : Printed lib (defaultConfiguration lib) := ⟨_, rfl⟩
  have hcString : cString (defaultConfiguration lib) = defaultConfiguration lib :=
    hlib.printed _
  refine ⟨h.consistent, ?_, ?_, ?_⟩
  · by_cases hsame : afterReboot lib (step lib s.store e).nvs = afterReboot lib s.store.nvs
    · rw [track_actives_same hsame, hs.last]
      exact hsame.symm
    · -- only a store that had no active document can come by one
      have hnone : afterReboot lib s.store.nvs = none := by
        cases hbefore : afterReboot lib s.store.nvs with
        | none => rfl
        | some active => exact absurd ((h.nvs active hbefore).trans hbefore.symm) hsame
      have hempty : s.actives = [] := List.getLast?_eq_none_iff.mp (hs.last.trans hnone)
      rw [track, if_neg hsame, hempty, List.nil_append]
      cases afterReboot lib (step lib s.store e).nvs <;> rfl
  · intro slot active hload
    rw [track_store] at hload ⊢
    by_cases hzero : slot = 0
    · subst hzero
      rcases hslot0 with hslot0 | hslot0
      · rw [loadSlot] at hload
        rw [hslot0] at hload ⊢
        exact hs.printed 0 active hload
      · rw [hslot0, hcString]
        exact hdefault
    · have hslot : loadSlot lib (step lib s.store e).nvs slot = none := by
        rw [← hslot1, loadSlot, loadSlot, Slots.get, Slots.get, if_neg hzero,
          if_neg Nat.one_ne_zero]
      rw [hslot] at hload
      cases hload
  · intro stored hstored
    rw [track_store, hselected] at hstored
    exact absurd (hslot1.symm.trans hstored) (by simp)

/-- The preferences after an activation are those after its commit. -/
theorem activate_nvs (faults : Faults) (raw : String) (revision : ℕ) (result : String)
    (store : Store) :
    (activate lib faults raw revision result store).1.nvs =
      (commitSlot lib faults (otherSlot store.ram.activeSlot) raw revision
        "configuration_pointer_write_failed" store.nvs).1 := by
  unfold activate
  dsimp only
  generalize commitSlot lib faults (otherSlot store.ram.activeSlot) raw revision
    "configuration_pointer_write_failed" store.nvs = out
  obtain ⟨t, _ | (error | verified)⟩ := out
  · rfl
  · rfl
  · rfl

/-- The preferences after an apply that has a text to commit. -/
theorem apply_nvs {faults : Faults} {candidateJson canonical : String} {revision : ℕ}
    {store : Store} (h : applyText lib faults candidateJson store.ram = .ok (revision, canonical)) :
    (step lib store (.apply faults candidateJson)).nvs =
      (commitSlot lib faults (otherSlot store.ram.activeSlot) canonical revision
        "configuration_pointer_write_failed" store.nvs).1 := by
  rw [step, apply, h]
  exact activate_nvs faults canonical revision "applied" store

/-- The preferences after a rollback that has a text to commit. -/
theorem rollback_nvs {faults : Faults} {raw : String} {revision : ℕ} {store : Store}
    (h : rollbackTo lib faults store = .ok (revision, raw)) :
    (step lib store (.rollback faults)).nvs =
      (commitSlot lib faults (otherSlot store.ram.activeSlot) raw revision
        "configuration_pointer_write_failed" store.nvs).1 := by
  rw [step, rollback, h]
  exact activate_nvs faults raw revision "rolled_back" store

/-- A slot write that does not take effect ends the commit there. -/
theorem commitSlot_of_not_takesEffect {faults : Faults}
    (h : faults.slotWrite.takesEffect = false) (slot : ℕ) (raw : String) (revision : ℕ)
    (pointerError : String) (nvs : Nvs) :
    (commitSlot lib faults slot raw revision pointerError nvs).1 = nvs := by
  unfold commitSlot persistSlotVerified
  cases hwrite : faults.slotWrite with
  | cutBefore => rfl
  | fails => rfl
  | done =>
    rw [hwrite] at h
    cases h
  | cutAfter =>
    rw [hwrite] at h
    cases h

/-- A commit whose writes take effect, and whose text reads back, is complete. -/
theorem commitSlot_committed {faults : Faults} {slot : ℕ} {raw : String} {revision : ℕ}
    (pointerError : String) (nvs : Nvs) (hslot : faults.slotWrite = .done)
    (hback : faults.readsBack = true) (hreads : Reads lib raw revision)
    (hpointer : faults.pointerWrite.takesEffect = true) :
    Committed lib slot raw revision nvs
      (commitSlot lib faults slot raw revision pointerError nvs).1 := by
  have hpersist : persistSlotVerified lib faults slot raw revision nvs =
      ({ nvs with slots := nvs.slots.set slot raw }, some (.ok raw)) := by
    simp [persistSlotVerified, hslot, hback, loadSlot, Nvs.putSlot, hreads.1, hreads.2]
  unfold commitSlot
  rw [hpersist]
  cases hwrite : faults.pointerWrite with
  | cutBefore =>
    rw [hwrite] at hpointer
    cases hpointer
  | fails =>
    rw [hwrite] at hpointer
    cases hpointer
  | cutAfter => exact ⟨rfl, rfl, rfl, hreads⟩
  | done => exact ⟨rfl, rfl, rfl, hreads⟩

/-- The step lemma: applies that complete keep the source of a rollback. -/
theorem track_sourced (hlib : Prints lib) (hs : Sourced lib s) {e : Event}
    (he : Completes lib s.store e) : Sourced lib (track lib s e) := by
  cases e with
  | begin faults => exact sourced_of_booted hlib hs (begin_spec faults hs.consistent)
  | setLifecycleCallbacks locks validator activated =>
    refine sourced_of_nvs hs ?_
    cases locks <;> rfl
  | reboot => exact sourced_of_nvs hs rfl
  | apply faults candidateJson =>
    cases htext : applyText lib faults candidateJson s.store.ram with
    | error error => exact sourced_of_nvs hs (by rw [step, apply, htext])
    | ok out =>
      obtain ⟨revision, canonical⟩ := out
      obtain ⟨hnext, -, hcanonical⟩ := applyText_eq_ok htext
      obtain ⟨hready, hrevision⟩ := nextRevision_eq_ok hnext
      have hactive := (hs.consistent.ready hready).1
      have hnvs := apply_nvs htext
      rw [hactive] at hnvs
      cases heffect : faults.slotWrite.takesEffect with
      | false =>
        refine sourced_of_nvs hs ?_
        rw [hnvs]
        exact commitSlot_of_not_takesEffect heffect _ _ _ _ _
      | true =>
        obtain ⟨hslot, hback, hreads, hpointer⟩ := he revision canonical htext heffect
        have hprinted := canonicalizeCandidate_printed hcanonical
        refine sourced_of_committed hs hready hprinted hrevision ?_
        rw [hnvs]
        exact commitSlot_committed _ _ hslot hback hreads hpointer
  | rollback faults =>
    cases htext : rollbackTo lib faults s.store with
    | error error => exact sourced_of_nvs hs (by rw [step, rollback, htext])
    | ok out =>
      obtain ⟨revision, raw⟩ := out
      obtain ⟨hnext, -, previous, hprevious, hraw⟩ := rollbackTo_eq_ok htext
      obtain ⟨hready, hrevision⟩ := nextRevision_eq_ok hnext
      have hactive := (hs.consistent.ready hready).1
      rw [hactive] at hprevious
      have hnvs := rollback_nvs htext
      rw [hactive] at hnvs
      rcases commitSlot_cases lib faults (otherSlot (selectedSlot s.store.nvs)) raw revision
          "configuration_pointer_write_failed" s.store.nvs with ⟨hstopped, _⟩ | ⟨hcommitted, _⟩
      · rw [← hnvs] at hstopped
        exact sourced_of_stopped hlib hs hready hprevious hraw hstopped
      · rw [← hnvs] at hcommitted
        exact sourced_of_committed hs hready (rollbackText_printed hraw) hrevision hcommitted

/-- Erased preferences have no source. -/
theorem erased_sourced (lib : JsonLibrary α) : Sourced lib {} where
  consistent := erased_consistent lib
  last := by cases afterReboot lib {} <;> simp
  printed := by
    intro slot active hload
    cases slot <;> cases hload
  source := fun _ hstored => by cases hstored

/-- An apply that completes, but whose pointer write does not take effect, has
written nothing. -/
theorem completes_unwritten {s : Store} {faults : Faults}
    {candidateJson : String} (he : Completes lib s (.apply faults candidateJson))
    (hpointer : (step lib s (.apply faults candidateJson)).nvs.pointerWrites =
      s.nvs.pointerWrites) :
    (step lib s (.apply faults candidateJson)).nvs = s.nvs := by
  cases htext : applyText lib faults candidateJson s.ram with
  | error error => rw [step, apply, htext]
  | ok out =>
    obtain ⟨revision, canonical⟩ := out
    have hnvs := apply_nvs htext
    rw [hnvs] at hpointer ⊢
    cases heffect : faults.slotWrite.takesEffect with
    | false => exact commitSlot_of_not_takesEffect heffect _ _ _ _ _
    | true =>
      obtain ⟨hslot, hback, hreads, hwrite⟩ := he revision canonical htext heffect
      have hcommitted : Committed lib (otherSlot s.ram.activeSlot) canonical revision s.nvs
          (commitSlot lib faults (otherSlot s.ram.activeSlot) canonical revision
            "configuration_pointer_write_failed" s.nvs).1 :=
        commitSlot_committed "configuration_pointer_write_failed" s.nvs hslot hback hreads hwrite
      exact absurd (hcommitted.pointerWrites.symm.trans hpointer) (by omega)

/-! ### A sample run

Two candidates with one rule each, and a JSON library that is a table for them. -/

/-- A document whose rules have these identifiers. -/
def sampleDocument (ids : List String) (revision : ℕ) : Json ℕ :=
  .obj [("schema", .int 1), ("revision", .int revision),
    ("rules", .arr (ids.map fun id => .obj [("id", .str id)])), ("schedules", .arr [])]

/-- The documents of the sample run: identifiers, revision and printed text. -/
def sampleTexts : List ((List String × ℕ) × String) :=
  [(([], 0), "\x7b\"schema\":1,\"revision\":0,\"rules\":[],\"schedules\":[]\x7d"),
    (([], 2), "\x7b\"schema\":1,\"revision\":2,\"rules\":[],\"schedules\":[]\x7d"),
    ((["a"], 0),
      "\x7b\"schema\":1,\"revision\":0,\"rules\":[\x7b\"id\":\"a\"\x7d],\"schedules\":[]\x7d"),
    ((["a"], 1),
      "\x7b\"schema\":1,\"revision\":1,\"rules\":[\x7b\"id\":\"a\"\x7d],\"schedules\":[]\x7d"),
    ((["b"], 0),
      "\x7b\"schema\":1,\"revision\":0,\"rules\":[\x7b\"id\":\"b\"\x7d],\"schedules\":[]\x7d"),
    ((["b"], 2),
      "\x7b\"schema\":1,\"revision\":2,\"rules\":[\x7b\"id\":\"b\"\x7d],\"schedules\":[]\x7d")]

/-- The printed text of a document of the sample run. -/
def sampleText (key : List String × ℕ) : String := (sampleTexts.lookup key).getD ""

/-- The identifiers and the revision of a document. -/
def sampleKey (document : Json ℕ) : List String × ℕ :=
  ((document.member "rules").asArray.map fun rule => (rule.member "id").orCStr "",
    (document.member "revision").asUInt 32)

/-- A JSON library that knows the documents of the sample run. -/
def sampleLibrary : JsonLibrary ℕ where
  deserializeJson _ text :=
    (sampleTexts.find? fun entry => entry.2 == text).map fun entry =>
      sampleDocument entry.1.1 entry.1.2
  serializeJson document := sampleText (sampleKey document)
  setMember _ document key value := document.withMember key value

/-- A text that the sample library prints is in its table, or empty. -/
theorem sampleLibrary_prints (document : Json ℕ) :
    sampleLibrary.serializeJson document = "" ∨
      ∃ entry ∈ sampleTexts, entry.1 = sampleKey document ∧
        entry.2 = sampleLibrary.serializeJson document := by
  change (sampleTexts.lookup (sampleKey document)).getD "" = "" ∨ ∃ entry ∈ sampleTexts,
    entry.1 = sampleKey document ∧ entry.2 = (sampleTexts.lookup (sampleKey document)).getD ""
  cases hlookup : sampleTexts.lookup (sampleKey document) with
  | none => exact .inl rfl
  | some text =>
    obtain ⟨before, after, hsplit, _⟩ := List.lookup_eq_some_iff.mp hlookup
    exact .inr ⟨(sampleKey document, text), by rw [hsplit]; simp, rfl, rfl⟩

/-- The sample library prints and reads as the firmware relies on. -/
theorem sampleLibrary_lawful : Prints sampleLibrary where
  printed := by
    intro document
    have htable : ∀ entry ∈ sampleTexts, cString entry.2 = entry.2 := by decide +kernel
    rcases sampleLibrary_prints document with hempty | ⟨entry, hentry, _, htext⟩
    · rw [hempty]
      rfl
    · rw [← htext]
      exact htable entry hentry
  setRevision := fun document value => payload_withMember value document
  reread := by
    intro document read revision again hread hagain
    have hinjective : ∀ entry ∈ sampleTexts, ∀ other ∈ sampleTexts, entry.2 = other.2 →
        entry.1 = other.1 := by decide +kernel
    have hentries : ∀ text known, sampleLibrary.deserializeJson JSON_CAPACITY text = some known →
        ∃ entry ∈ sampleTexts, entry.2 = text ∧ known = sampleDocument entry.1.1 entry.1.2 := by
      intro text known hknown
      obtain ⟨entry, hfind, heq⟩ := Option.map_eq_some_iff.mp hknown
      have htext := List.find?_some hfind
      exact ⟨entry, List.mem_of_find?_eq_some hfind, beq_iff_eq.mp htext, heq.symm⟩
    obtain ⟨entry, hentry, _, rfl⟩ := hentries _ _ hread
    obtain ⟨other, hother, htext, rfl⟩ := hentries _ _ hagain
    have hids : other.1.1 = entry.1.1 := by
      rcases sampleLibrary_prints ((sampleDocument entry.1.1 entry.1.2).withMember "revision"
          (.int revision)) with hempty | ⟨printed, hprinted, hkey, hsame⟩
      · have hnonempty : ∀ entry ∈ sampleTexts, entry.2 ≠ "" := by decide +kernel
        exact absurd (htext.trans hempty) (hnonempty other hother)
      · have hkeys : ∀ entry ∈ sampleTexts,
            (sampleKey (sampleDocument entry.1.1 0)).1 = entry.1.1 := by decide +kernel
        rw [hinjective other hother printed hprinted (htext.trans hsame.symm), hkey]
        exact hkeys entry hentry
    change payload (sampleDocument other.1.1 other.1.2) =
      payload ((sampleDocument entry.1.1 entry.1.2).withMember "revision" (.int revision))
    rw [payload_withMember, hids]
    rfl

/-- The device has booted and applied the first candidate. -/
def sampleEvents : List Event := [.begin {}, .apply {} (sampleText (["a"], 0))]

/-! ### Rollback -/

/-- In every run whose applies complete, a rollback that succeeds activates the
contents that were active immediately before the current ones, and an apply that
does not change the pointer leaves the source of a rollback as it was. -/
theorem rollback_restores (lib : JsonLibrary α) (hlib : Prints lib) (events : List Event)
    (hevents : Throughout (track lib) (fun s e => Completes lib s.store e) {} events) :
    let s := run (track lib) {} events
    (∀ faults, returned lib s.store (.rollback faults) = some (.ok ()) →
      ∃ earlier before current activated, s.actives = earlier ++ [before, current] ∧
        (track lib s (.rollback faults)).actives = earlier ++ [before, current, activated] ∧
        payloadText lib activated.1 = payloadText lib before.1) ∧
    ∀ faults candidateJson, Completes lib s.store (.apply faults candidateJson) →
      (step lib s.store (.apply faults candidateJson)).nvs.pointerWrites =
        s.store.nvs.pointerWrites →
      (step lib s.store (.apply faults candidateJson)).nvs = s.store.nvs := by
  intro s
  have hs : Sourced lib s := run_invariant_of_throughout (I := Sourced lib)
    (fun _ _ hs he => track_sourced hlib hs he) (erased_sourced lib) hevents
  refine ⟨fun faults hok => ?_, fun _ _ he => completes_unwritten he⟩
  cases htext : rollbackTo lib faults s.store with
  | error error =>
    rw [returned, rollback, htext] at hok
    cases hok
  | ok out =>
    obtain ⟨revision, raw⟩ := out
    obtain ⟨hnext, -, previous, hprevious, hraw⟩ := rollbackTo_eq_ok htext
    obtain ⟨hready, hrevision⟩ := nextRevision_eq_ok hnext
    obtain ⟨hactive, hload⟩ := hs.consistent.ready hready
    have hstep : (step lib s.store (.rollback faults), returned lib s.store (.rollback faults)) =
        activate lib faults raw revision "rolled_back" s.store := by
      rw [step, returned, rollback, htext]
    obtain ⟨_, hkept | htaken⟩ :=
      activate_spec faults raw revision "rolled_back" hs.consistent hready
    · rcases hkept.answer with hnone | ⟨error, herror, _⟩
      · rw [← hstep, hok] at hnone
        cases hnone
      · rw [← hstep, hok] at herror
        cases herror
    · rw [hactive] at hprevious
      obtain ⟨earlier, before, current, hsplit, hsame⟩ := hs.source previous hprevious
      have hafter : afterReboot lib (step lib s.store (.rollback faults)).nvs =
          some (raw, revision) := by
        have h := htaken.nvs
        rw [← hstep] at h
        exact h
      have hbefore := afterReboot_selected hs.consistent.pointer hload
      have hchanged : afterReboot lib (step lib s.store (.rollback faults)).nvs ≠
          afterReboot lib s.store.nvs := by
        rw [hafter, hbefore, hrevision]
        simp
      refine ⟨earlier, before, current, (raw, revision), hsplit, ?_, ?_⟩
      · rw [track, if_neg hchanged, hafter, hsplit, List.append_assoc]
        rfl
      · have hnew := (track_sourced hlib hs (e := .rollback faults) trivial).consistent
        have hsource := hs.printed _ previous hprevious
        rw [← loadSlot_fst hprevious] at hsource
        rw [← hsame]
        exact rollbackText_payload hlib hsource hraw (loadText_of_afterReboot hnew hafter)

/-- A start and an apply, after which a rollback restores the payload of the start. -/
theorem rollback_restores_sample :
    let s := run (track sampleLibrary) {} sampleEvents
    returned sampleLibrary s.store (.rollback {}) = some (.ok ()) ∧
      ∃ earlier before current activated, s.actives = earlier ++ [before, current] ∧
        (track sampleLibrary s (.rollback {})).actives = earlier ++ [before, current, activated] ∧
        payloadText sampleLibrary activated.1 = payloadText sampleLibrary before.1 := by
  have hruns : returned sampleLibrary (run (track sampleLibrary) {} sampleEvents).store
        (.rollback {}) = some (.ok ()) ∧
      applyText sampleLibrary {} (sampleText (["a"], 0))
        (track sampleLibrary {} (.begin {})).store.ram = .ok (1, sampleText (["a"], 1)) := by
    decide +kernel
  obtain ⟨hok, hcandidate⟩ := hruns
  have hcompletes : Throughout (track sampleLibrary)
      (fun s e => Completes sampleLibrary s.store e) {} sampleEvents := by
    refine ⟨trivial, ?_, trivial⟩
    intro revision canonical htext _
    cases hcandidate.symm.trans htext
    exact ⟨rfl, rfl, ⟨by decide +kernel, by decide +kernel⟩, rfl⟩
  have hrestores := rollback_restores sampleLibrary sampleLibrary_lawful sampleEvents hcompletes
  exact ⟨hok, hrestores.1 {} hok⟩

/-- The second apply writes its slot and fails at the pointer; the rollback
activates the document that was refused. -/
theorem rollback_failedApply :
    ¬ ∀ (lib : JsonLibrary ℕ), Prints lib → ∀ (events : List Event) (faults : Faults),
      let s := run (track lib) {} events
      returned lib s.store (.rollback faults) = some (.ok ()) →
        ∃ earlier before current activated, s.actives = earlier ++ [before, current] ∧
          (track lib s (.rollback faults)).actives = earlier ++ [before, current, activated] ∧
          payloadText lib activated.1 = payloadText lib before.1 := by
  intro h
  let s := run (track sampleLibrary) {}
    (sampleEvents ++ [.apply { pointerWrite := .fails } (sampleText (["b"], 0))])
  have hrun : returned sampleLibrary s.store (.rollback {}) = some (.ok ()) ∧
      s.actives = [(sampleText ([], 0), 0), (sampleText (["a"], 1), 1)] ∧
      (track sampleLibrary s (.rollback {})).actives =
        [(sampleText ([], 0), 0), (sampleText (["a"], 1), 1), (sampleText (["b"], 2), 2)] := by
    decide +kernel
  obtain ⟨hok, hbefore, hafter⟩ := hrun
  obtain ⟨earlier, before, current, activated, hactives, hrolledBack, hpayload⟩ :=
    h sampleLibrary sampleLibrary_lawful _ {} hok
  have hsplit := hbefore.symm.trans hactives
  have hempty : earlier = [] := by simpa using congrArg List.length hsplit
  subst hempty
  cases hsplit
  cases hafter.symm.trans hrolledBack
  have hrules := congrArg
    (Option.map fun members => ((Json.obj members).member "rules").asArray.length) hpayload
  exact absurd hrules (by decide +kernel)

end ProjEsp32.ConfigurationRollback
