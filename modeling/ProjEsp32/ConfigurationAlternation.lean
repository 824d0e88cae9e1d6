import ProjEsp32.ConfigurationRollback
import ProjEsp32.FlatJson

/-!
# Rolling back again and again

Two candidates are applied one after the other and then rolled back any number of
times. A rollback prints the document of the other slot under the next revision and
tests its size once more, although an apply has accepted it: the revision may have
gained a digit since.
-/

namespace ProjEsp32.ConfigurationAlternation

open ArduinoText ArduinoJson CheckedResult ConfigurationDocument ConfigurationRollback
open ConfigurationRuns ConfigurationStore TransitionRuns TwoSlots

variable {α : Type}

/-- The document under the schema and a revision of the device. -/
def stamped (document : Json α) (revision : ℕ) : Json α :=
  (document.withMember "schema" (.int SCHEMA_VERSION)).withMember "revision" (.int revision)

/-- Its text. -/
def stampedText (lib : JsonLibrary α) (document : Json α) (revision : ℕ) : String :=
  lib.serializeJson (stamped document revision)

/-- The document was read from a text of a size that is accepted. -/
def Held (lib : JsonLibrary α) (document : Json α) : Prop :=
  ∃ raw, sizeInvalid raw = false ∧ lib.deserializeJson JSON_CAPACITY raw = some document

/-- What the firmware relies on: a document that was read can be given a schema and a
revision, with room for one more member, and what is printed then is read back. -/
structure ParsesBack (lib : JsonLibrary α) : Prop where
  /-- A revision fits into the memory of the document. -/
  room : ∀ document (revision : ℕ), Held lib document → validateDocument document false = .ok () →
    lib.setMember JSON_CAPACITY
        (lib.setMember JSON_CAPACITY document "schema" (.int SCHEMA_VERSION)) "revision"
        (.int revision) = stamped document revision
  /-- The document with another revision is still one that is held. -/
  replaced : ∀ document (revision : ℕ), Held lib document →
    lib.setMember JSON_CAPACITY document "revision" (.int revision) =
      document.withMember "revision" (.int revision)
  /-- Its text is the one of its members. -/
  printed : ∀ document revision, Held lib document →
    cString (stampedText lib document revision) = stampedText lib document revision
  /-- What is printed is read back. -/
  reread : ∀ document revision, Held lib document → validateDocument document false = .ok () →
    revision < 2^32 →
      lib.deserializeJson JSON_CAPACITY (stampedText lib document revision) =
        some (stamped document revision)

/-- The answer of the validator does not depend on the revision. -/
def RevisionFree (lib : JsonLibrary α) (validator : Option (String → Except String Unit)) : Prop :=
  ∀ document revision other, Held lib document →
    checkSemantics validator (stampedText lib document revision) = .ok () →
      checkSemantics validator (stampedText lib document other) = .ok ()

/-- The text of a candidate under a revision. -/
def textUnder (lib : JsonLibrary α) (candidateJson : String) (revision : ℕ) : String :=
  match lib.deserializeJson JSON_CAPACITY candidateJson with
  | some document => stampedText lib document revision
  | none => ""

/-- The active document has this revision, and is the candidate in every other member. -/
def Activates (lib : JsonLibrary α) (s : Store) (candidateJson : String) (revision : ℕ) : Prop :=
  s.ram.activeRevision = revision ∧ ∃ candidate active,
    lib.deserializeJson JSON_CAPACITY candidateJson = some candidate ∧
    lib.deserializeJson JSON_CAPACITY s.ram.activeRaw = some active ∧
    active.member "revision" = .int revision ∧
    ∀ key, key ≠ "revision" → active.member key = candidate.member key ∧
      active.containsKey key = candidate.containsKey key

/-- The store after some rollbacks that meet no fault. -/
def rolledBack (lib : JsonLibrary α) (s : Store) (count : ℕ) : Store :=
  run (step lib) s (List.replicate count (.rollback {}))

/-- What the rollbacks return to in turn, counted from zero. -/
def returnsTo {β : Type} (first second : β) (count : ℕ) : β :=
  if count % 2 = 0 then first else second

variable {lib : JsonLibrary α} {s t : Store}

/-! ### Documents under a revision -/

/-- A document that an apply accepts. -/
structure Accepted (lib : JsonLibrary α) (document : Json α) : Prop where
  /-- The document fits into memory. -/
  held : Held lib document
  /-- It is a document of the schema. -/
  valid : validateDocument document false = .ok ()

/-- A valid document is an object. -/
theorem isObject_of_valid {document : Json α} {requireRevision : Bool}
    (h : validateDocument document requireRevision = .ok ()) : document.isObject = true := by
  unfold validateDocument at h
  simp only [bind_eq_ok, refuseIf_eq_ok, Bool.not_eq_false'] at h
  exact h.choose_spec.1

/-- The schema of a valid document is that of the device. -/
theorem schema_of_valid {document : Json α} {requireRevision : Bool}
    (h : validateDocument document requireRevision = .ok ()) :
    document.member "schema" = .int SCHEMA_VERSION ∧ document.containsKey "schema" = true := by
  unfold validateDocument at h
  simp only [bind_eq_ok, refuseIf_eq_ok, Bool.not_eq_false', Bool.and_eq_true] at h
  obtain ⟨_, _, _, ⟨huint, hvalue⟩, _⟩ := h
  have hmember : document.member "schema" = .int SCHEMA_VERSION := by
    cases hschema : document.member "schema" with
    | int value =>
      rw [hschema] at huint hvalue
      simp only [Json.isUInt, Bool.and_eq_true, decide_eq_true_eq] at huint
      simp only [Json.asUInt, if_pos huint, beq_iff_eq] at hvalue
      rw [← hvalue, Int.toNat_of_nonneg huint.1]
    | null => rw [hschema] at huint; cases huint
    | bool _ => rw [hschema] at huint; cases huint
    | float _ => rw [hschema] at huint; cases huint
    | str _ => rw [hschema] at huint; cases huint
    | arr _ => rw [hschema] at huint; cases huint
    | obj _ => rw [hschema] at huint; cases huint
  refine ⟨hmember, ?_⟩
  cases document with
  | obj members =>
    cases hlookup : members.lookup "schema" with
    | some value => simp [Json.containsKey, hlookup]
    | none => simp [Json.member, hlookup] at hmember
  | null => cases hmember
  | bool _ => cases hmember
  | int _ => cases hmember
  | float _ => cases hmember
  | str _ => cases hmember
  | arr _ => cases hmember

/-- The members of a document under a revision. -/
theorem stamped_members {document : Json α} (h : document.isObject = true) (revision : ℕ)
    (key : String) :
    (stamped document revision).isObject = true ∧
      (stamped document revision).member key =
        (if key = "revision" then .int revision
          else if key = "schema" then .int SCHEMA_VERSION else document.member key) ∧
      (stamped document revision).containsKey key =
        (decide (key = "revision") || decide (key = "schema") || document.containsKey key) := by
  have hschema := Json.isObject_withMember h "schema" (.int SCHEMA_VERSION)
  refine ⟨Json.isObject_withMember hschema _ _, ?_, ?_⟩
  · rw [stamped, Json.member_withMember hschema, Json.member_withMember h]
  · rw [stamped, Json.containsKey_withMember hschema, Json.containsKey_withMember h, Bool.or_assoc]

/-- Another revision takes the place of the one before. -/
theorem stamped_withMember (document : Json α) (revision other : ℕ) :
    (stamped document revision).withMember "revision" (.int other) = stamped document other :=
  Json.withMember_withMember _ _ _ _

/-- A valid candidate stays valid under a revision. -/
theorem validateDocument_stamped {document : Json α} {revision : ℕ}
    (h : validateDocument document false = .ok ()) (hrevision : revision < 2^32) :
    validateDocument (stamped document revision) true = .ok () := by
  have hmembers := stamped_members (isObject_of_valid h) revision
  unfold validateDocument at h ⊢
  simp only [bind_eq_ok, refuseIf_eq_ok] at h ⊢
  obtain ⟨_, _, _, _, _, _, _, harrays, _, hrules, hschedules⟩ := h
  simp only [(hmembers "rules").1, (hmembers "rules").2.1, (hmembers "schedules").2.1,
    (hmembers "schema").2.1, (hmembers "revision").2.1]
  refine ⟨(), rfl, (), ?_, (), ?_, (), harrays, (), hrules, hschedules⟩
  · rfl
  · simp [Json.isUInt_of_lt hrevision]

/-- An accepted document is held in a slot under its revision. -/
theorem held_stamped (hlib : ParsesBack lib) {document : Json α} {revision : ℕ}
    (h : Accepted lib document) (hrevision : revision < 2^32)
    (hsize : sizeInvalid (stampedText lib document revision) = false) :
    Held lib (stamped document revision) :=
  ⟨_, hsize, hlib.reread document revision h.held h.valid hrevision⟩

/-- The text of an accepted document reads back as that document. -/
theorem reads_stamped (hlib : ParsesBack lib) {document : Json α} {revision : ℕ}
    (h : Accepted lib document) (hrevision : revision < 2^32)
    (hsize : sizeInvalid (stampedText lib document revision) = false) :
    Reads lib (stampedText lib document revision) revision := by
  refine ⟨hlib.printed document revision h.held, ?_⟩
  have hread := hlib.reread document revision h.held h.valid hrevision
  have hmember := (stamped_members (isObject_of_valid h.valid) revision "revision").2.1
  have hparsed : parseStored lib (stampedText lib document revision) =
      .ok (stamped document revision, revision) := by
    unfold parseStored
    rw [hsize, hread]
    simp only [refuseIf, orRefuse, validateDocument_stamped h.valid hrevision, bind, Except.bind,
      hmember, if_true, Json.asUInt_of_lt hrevision]
    rfl
  rw [loadText, hparsed]

/-- The text of a candidate is that of its document under the revision. -/
theorem canonicalizeCandidate_ok (hlib : ParsesBack lib) {candidateJson raw : String}
    {revision : ℕ} (h : canonicalizeCandidate lib candidateJson revision = .ok raw) :
    ∃ document, lib.deserializeJson JSON_CAPACITY candidateJson = some document ∧
      Accepted lib document ∧ raw = stampedText lib document revision ∧
      sizeInvalid raw = false := by
  unfold canonicalizeCandidate at h
  simp only [bind_eq_ok, refuseIf_eq_ok, orRefuse_eq_ok] at h
  obtain ⟨_, hsize, document, hread, _, hvalid, _, hprinted, hout⟩ := h
  have haccepted : Accepted lib document := ⟨⟨candidateJson, hsize, hread⟩, hvalid⟩
  rw [hlib.room document revision haccepted.held hvalid] at hprinted hout
  cases hout
  exact ⟨document, hread, haccepted, rfl, hprinted⟩

/-- The text of a stored document under another revision, unless its size is refused. -/
theorem rollbackText_stamped (hlib : ParsesBack lib) {document : Json α} {revision : ℕ}
    (h : Accepted lib document) (hrevision : revision < 2^32)
    (hsize : sizeInvalid (stampedText lib document revision) = false) (other : ℕ) :
    rollbackText lib (stampedText lib document revision) other =
      if sizeInvalid (stampedText lib document other) then .error "configuration_size_invalid"
      else .ok (stampedText lib document other) := by
  have hread := hlib.reread document revision h.held h.valid hrevision
  unfold rollbackText
  rw [hread]
  simp only [orRefuse, validateDocument_stamped h.valid hrevision, bind, Except.bind]
  rw [hlib.replaced _ other (held_stamped hlib h hrevision hsize), stamped_withMember]
  change (refuseIf (sizeInvalid (stampedText lib document other)) _ >>= fun _ => _) = _
  cases hother : sizeInvalid (stampedText lib document other) <;> rfl

/-! ### One step -/

/-- The store has taken a document under its next revision. -/
structure Took (lib : JsonLibrary α) (document : Json α) (s t : Store) : Prop where
  /-- The store is in use. -/
  ready : t.ram.configReady = true
  /-- The revision is the next one. -/
  revision : t.ram.activeRevision = s.ram.activeRevision + 1
  /-- The other slot is in use. -/
  slot : t.ram.activeSlot = otherSlot s.ram.activeSlot
  /-- Its text is the document under the new revision. -/
  raw : t.ram.activeRaw = stampedText lib document (s.ram.activeRevision + 1)
  /-- The validator is the same. -/
  validator : t.ram.ruleValidator = s.ram.ruleValidator
  /-- Only the other slot has been written. -/
  slots : t.nvs.slots = s.nvs.slots.set (otherSlot s.ram.activeSlot)
    (stampedText lib document (s.ram.activeRevision + 1))

/-- An activation that meets no fault. -/
theorem activate_took {document : Json α} (hready : s.ram.configReady = true)
    (hreads : Reads lib (stampedText lib document (s.ram.activeRevision + 1))
      (s.ram.activeRevision + 1)) (result : String) :
    ∃ t, activate lib {} (stampedText lib document (s.ram.activeRevision + 1))
        (s.ram.activeRevision + 1) result s = (t, some (.ok ())) ∧ Took lib document s t := by
  have hcommitted : Committed lib (otherSlot s.ram.activeSlot) _ _ s.nvs _ :=
    commitSlot_committed "configuration_pointer_write_failed" s.nvs
      (show ({} : Faults).slotWrite = .done from rfl) rfl hreads rfl
  obtain ⟨nvs, hcommit⟩ : ∃ nvs, commitSlot lib {} (otherSlot s.ram.activeSlot) _ _ _ s.nvs = _ :=
    commitSlot_clean "configuration_pointer_write_failed" s.nvs hreads
  rw [hcommit] at hcommitted
  unfold activate
  dsimp only
  rw [hcommit]
  exact ⟨_, rfl, hready, rfl, rfl, rfl, rfl, hcommitted.slots⟩

/-- An apply that succeeds takes the document of its candidate. -/
theorem apply_took (hlib : ParsesBack lib) {candidateJson : String}
    (hrevision : s.ram.activeRevision + 1 < 2^32)
    (h : returned lib s (.apply {} candidateJson) = some (.ok ())) :
    ∃ document, lib.deserializeJson JSON_CAPACITY candidateJson = some document ∧
      Accepted lib document ∧
      sizeInvalid (stampedText lib document (s.ram.activeRevision + 1)) = false ∧
      checkSemantics s.ram.ruleValidator (stampedText lib document (s.ram.activeRevision + 1)) =
        .ok () ∧
      Took lib document s (step lib s (.apply {} candidateJson)) := by
  rw [returned, apply] at h
  rw [step, apply]
  cases htext : applyText lib {} candidateJson s.ram with
  | error error =>
    rw [htext] at h
    cases h
  | ok out =>
    obtain ⟨revision, canonical⟩ := out
    obtain ⟨hnext, hchecked, hcanonical⟩ := applyText_eq_ok htext
    obtain ⟨hready, rfl⟩ := nextRevision_eq_ok hnext
    obtain ⟨document, hread, haccepted, rfl, hsize⟩ := canonicalizeCandidate_ok hlib hcanonical
    obtain ⟨t, hactivated, htook⟩ :=
      activate_took hready (reads_stamped hlib haccepted hrevision hsize) "applied"
    dsimp only
    rw [hactivated]
    exact ⟨document, hread, haccepted, hsize, hchecked, htook⟩

/-- The store runs one document and keeps another one, a revision older, in the slot
that is not in use. -/
structure Holds (lib : JsonLibrary α) (current previous : Json α) (revision : ℕ) (s : Store) :
    Prop where
  /-- The store is in use. -/
  ready : s.ram.configReady = true
  /-- The revision in use. -/
  activeRevision : s.ram.activeRevision = revision + 1
  /-- The slot in use is one of the two. -/
  slot : s.ram.activeSlot ≤ 1
  /-- The text in memory. -/
  raw : s.ram.activeRaw = stampedText lib current (revision + 1)
  /-- It is also the one of the slot in use. -/
  inUse : s.nvs.slots.get s.ram.activeSlot = stampedText lib current (revision + 1)
  /-- The other slot has the document before. -/
  kept : s.nvs.slots.get (otherSlot s.ram.activeSlot) = stampedText lib previous revision
  /-- The text in use fits into a slot. -/
  currentSize : sizeInvalid (stampedText lib current (revision + 1)) = false
  /-- And so does the one before. -/
  previousSize : sizeInvalid (stampedText lib previous revision) = false

/-- What was in use before a document was taken is in the other slot then. -/
theorem Took.holds {document current : Json α} (h : Took lib document s t)
    (hslot : s.ram.activeSlot ≤ 1)
    (hcurrent : s.nvs.slots.get s.ram.activeSlot = stampedText lib current s.ram.activeRevision)
    (hsize : sizeInvalid (stampedText lib current s.ram.activeRevision) = false)
    (hnew : sizeInvalid (stampedText lib document (s.ram.activeRevision + 1)) = false) :
    Holds lib document current s.ram.activeRevision t where
  ready := h.ready
  activeRevision := h.revision
  slot := by
    rw [h.slot]
    exact otherSlot_le _
  raw := h.raw
  inUse := by rw [h.slot, h.slots, Slots.get_set]
  kept := by rw [h.slot, h.slots, otherSlot_otherSlot hslot, Slots.get_set_other, hcurrent]
  currentSize := hnew
  previousSize := hsize

/-- A rollback from two documents exchanges them when the size of the text allows it,
and is refused otherwise. -/
theorem rollback_exchanges (hlib : ParsesBack lib) {current previous : Json α} {revision : ℕ}
    (hs : Holds lib current previous revision s) (haccepted : Accepted lib previous)
    (hchecked : checkSemantics s.ram.ruleValidator (stampedText lib previous (revision + 2)) =
      .ok ()) (hbound : revision + 1 < UINT32_MAX) :
    (sizeInvalid (stampedText lib previous (revision + 2)) = false →
      returned lib s (.rollback {}) = some (.ok ()) ∧
        Holds lib previous current (revision + 1) (step lib s (.rollback {})) ∧
        (step lib s (.rollback {})).ram.ruleValidator = s.ram.ruleValidator) ∧
    (sizeInvalid (stampedText lib previous (revision + 2)) = true →
      returned lib s (.rollback {}) = some (.error "configuration_size_invalid")) := by
  unfold UINT32_MAX at hbound
  have hnext : nextRevision {} s.ram = .ok (revision + 2) := by
    have hexhausted : (s.ram.activeRevision == UINT32_MAX) = false := by
      rw [hs.activeRevision]
      exact beq_false_of_ne (by unfold UINT32_MAX; omega)
    unfold nextRevision
    rw [hs.ready, hexhausted, hs.activeRevision]
    rfl
  have hload : loadSlot lib s.nvs (otherSlot s.ram.activeSlot) =
      some (stampedText lib previous revision, revision) := by
    rw [loadSlot, hs.kept]
    exact (reads_stamped hlib haccepted (by omega) hs.previousSize).2
  have htext := rollbackText_stamped hlib haccepted (by omega) hs.previousSize (revision + 2)
  constructor
  · intro hsize
    rw [if_neg (by simp [hsize])] at htext
    have hto : rollbackTo lib {} s =
        .ok (revision + 2, stampedText lib previous (revision + 2)) := by
      unfold rollbackTo
      rw [hnext, hload]
      simp only [orRefuse, bind, Except.bind, htext, hchecked]
      rfl
    have hreads := reads_stamped hlib haccepted (by omega : revision + 2 < 2^32) hsize
    have htwo : revision + 2 = s.ram.activeRevision + 1 := by rw [hs.activeRevision]
    rw [htwo] at hreads hto hsize
    obtain ⟨t, hactivated, htook⟩ := activate_took hs.ready hreads "rolled_back"
    rw [returned, step, rollback, hto]
    dsimp only
    rw [hactivated]
    refine ⟨rfl, ?_, htook.validator⟩
    rw [← hs.activeRevision]
    refine htook.holds hs.slot ?_ ?_ hsize
    · rw [hs.activeRevision]
      exact hs.inUse
    · rw [hs.activeRevision]
      exact hs.currentSize
  · intro hsize
    rw [if_pos hsize] at htext
    have hto : rollbackTo lib {} s = .error "configuration_size_invalid" := by
      unfold rollbackTo
      rw [hnext, hload]
      simp only [orRefuse, bind, Except.bind, htext]
    rw [returned, rollback, hto]

/-- The active document is the one that the store runs. -/
theorem activates_of_raw (hlib : ParsesBack lib) {candidateJson : String} {document : Json α}
    {revision : ℕ} (hread : lib.deserializeJson JSON_CAPACITY candidateJson = some document)
    (h : Accepted lib document) (hbound : revision < 2^32)
    (hrevision : s.ram.activeRevision = revision)
    (hraw : s.ram.activeRaw = stampedText lib document revision) :
    Activates lib s candidateJson revision := by
  have hmembers := stamped_members (isObject_of_valid h.valid) revision
  refine ⟨hrevision, document, stamped document revision, hread, ?_, ?_, ?_⟩
  · rw [hraw]
    exact hlib.reread document revision h.held h.valid hbound
  · rw [(hmembers "revision").2.1, if_pos rfl]
  · intro key hkey
    obtain ⟨_, hmember, hcontains⟩ := hmembers key
    rw [hmember, hcontains, if_neg hkey]
    by_cases hschema : key = "schema"
    · obtain ⟨hvalue, hpresent⟩ := schema_of_valid h.valid
      rw [if_pos hschema, hschema, hvalue, hpresent]
      exact ⟨rfl, rfl⟩
    · rw [if_neg hschema]
      simp [hkey, hschema]

/-! ### Many rollbacks -/

/-- After two rollbacks the same document is active. -/
theorem returnsTo_add_two {β : Type} (first second : β) (count : ℕ) :
    returnsTo first second (count + 2) = returnsTo first second count := by
  unfold returnsTo
  rw [Nat.add_mod_right]

/-- What holds of both candidates holds of each that is returned to. -/
theorem returnsTo_cases {β : Type} {P : β → Prop} {first second : β} (hfirst : P first)
    (hsecond : P second) (count : ℕ) : P (returnsTo first second count) := by
  unfold returnsTo
  split
  · exact hfirst
  · exact hsecond

/-- One rollback more is one after the others. -/
theorem rolledBack_succ (lib : JsonLibrary α) (s : Store) (count : ℕ) :
    rolledBack lib s (count + 1) = step lib (rolledBack lib s count) (.rollback {}) := by
  rw [rolledBack, List.replicate_succ', run_append, run_cons, run_nil, rolledBack]

/-- While the sizes allow it, the two documents change places again and again. -/
theorem rolledBack_holds (hlib : ParsesBack lib) {first second : Json α} {revision count : ℕ}
    (hs : Holds lib second first revision s)
    (hchecked : ∀ k other, Accepted lib (returnsTo first second k) ∧
      checkSemantics s.ram.ruleValidator (stampedText lib (returnsTo first second k) other) =
        .ok ())
    (hbound : revision + 1 + count ≤ UINT32_MAX)
    (hfits : ∀ k < count,
      sizeInvalid (stampedText lib (returnsTo first second k) (revision + 2 + k)) = false) :
    Holds lib (returnsTo first second (count + 1)) (returnsTo first second count)
        (revision + count) (rolledBack lib s count) ∧
      (rolledBack lib s count).ram.ruleValidator = s.ram.ruleValidator := by
  induction count with
  | zero => exact ⟨hs, rfl⟩
  | succ count ih =>
    obtain ⟨hholds, hvalidator⟩ := ih (by omega) fun k hk => hfits k (by omega)
    obtain ⟨haccepted, hok⟩ := hchecked count (revision + count + 2)
    rw [← hvalidator] at hok
    have hsize : sizeInvalid (stampedText lib (returnsTo first second count)
        (revision + count + 2)) = false := by
      have h := hfits count (Nat.lt_succ_self count)
      rwa [show revision + 2 + count = revision + count + 2 by omega] at h
    obtain ⟨_, hnext, hsame⟩ :=
      (rollback_exchanges hlib hholds haccepted hok (by omega)).1 hsize
    rw [rolledBack_succ, returnsTo_add_two]
    exact ⟨hnext, hsame.trans hvalidator⟩

/-- A rollback of the sequence succeeds exactly when its text has an accepted size. -/
theorem rolledBack_ok_iff (hlib : ParsesBack lib) {first second : Json α} {revision count : ℕ}
    (hs : Holds lib second first revision s)
    (hchecked : ∀ k other, Accepted lib (returnsTo first second k) ∧
      checkSemantics s.ram.ruleValidator (stampedText lib (returnsTo first second k) other) =
        .ok ())
    (hbound : revision + 1 + count < UINT32_MAX)
    (hfits : ∀ k < count,
      sizeInvalid (stampedText lib (returnsTo first second k) (revision + 2 + k)) = false) :
    returned lib (rolledBack lib s count) (.rollback {}) = some (.ok ()) ↔
      sizeInvalid (stampedText lib (returnsTo first second count) (revision + 2 + count)) =
        false := by
  obtain ⟨hholds, hvalidator⟩ := rolledBack_holds hlib hs hchecked (Nat.le_of_lt hbound) hfits
  obtain ⟨haccepted, hok⟩ := hchecked count (revision + count + 2)
  rw [← hvalidator] at hok
  have hexchanges := rollback_exchanges hlib hholds haccepted hok (by omega)
  rw [show revision + 2 + count = revision + count + 2 by omega]
  constructor
  · intro hreturned
    by_contra hsize
    rw [hexchanges.2 (by simpa using hsize)] at hreturned
    cases hreturned
  · intro hsize
    exact (hexchanges.1 hsize).1

/-- What two applies that succeed leave, for the rollbacks that follow. -/
theorem applied_twice (hlib : ParsesBack lib) {first second : String}
    (hfree : RevisionFree lib s.ram.ruleValidator) (hbound : s.ram.activeRevision + 2 < 2^32)
    (hfirst : returned lib s (.apply {} first) = some (.ok ()))
    (hsecond : returned lib (step lib s (.apply {} first)) (.apply {} second) = some (.ok ())) :
    let applied := step lib s (.apply {} first)
    let t := step lib applied (.apply {} second)
    ∃ a b, lib.deserializeJson JSON_CAPACITY first = some a ∧
      lib.deserializeJson JSON_CAPACITY second = some b ∧
      Activates lib applied first (s.ram.activeRevision + 1) ∧
      Holds lib b a (s.ram.activeRevision + 1) t ∧
      ∀ k other, Accepted lib (returnsTo a b k) ∧
        checkSemantics t.ram.ruleValidator (stampedText lib (returnsTo a b k) other) = .ok () := by
  intro applied t
  obtain ⟨a, hreadA, hacceptedA, hsizeA, hcheckedA, htookA⟩ :=
    apply_took hlib (by omega) hfirst
  have hrevision : applied.ram.activeRevision = s.ram.activeRevision + 1 := htookA.revision
  obtain ⟨b, hreadB, hacceptedB, hsizeB, hcheckedB, htookB⟩ :=
    apply_took hlib (by rw [hrevision]; omega) hsecond
  have hvalidator : t.ram.ruleValidator = s.ram.ruleValidator :=
    htookB.validator.trans htookA.validator
  refine ⟨a, b, hreadA, hreadB,
    activates_of_raw hlib hreadA hacceptedA (by omega) hrevision htookA.raw, ?_, ?_⟩
  · rw [← hrevision]
    refine htookB.holds ?_ ?_ ?_ hsizeB
    · rw [htookA.slot]
      exact otherSlot_le _
    · rw [htookA.slot, htookA.slots, Slots.get_set, hrevision]
    · rw [hrevision]
      exact hsizeA
  · intro k other
    rw [hvalidator]
    rw [htookA.validator] at hcheckedB
    exact returnsTo_cases (P := fun document => Accepted lib document ∧ checkSemantics _
        (stampedText lib document other) = .ok ())
      ⟨hacceptedA, hfree a _ other hacceptedA.held hcheckedA⟩
      ⟨hacceptedB, hfree b _ other hacceptedB.held hcheckedB⟩ k

/-! ### A sample library

It knows the documents without rules, with or without one note, under any revision. -/

/-- A document with a note or without one. -/
def noteDocument (note : Option String) (revision : ℕ) : Json ℕ :=
  .obj <| [("schema", .int 1), ("revision", .int revision), ("rules", .arr []),
    ("schedules", .arr [])] ++ note.toList.map fun note => ("note", .str note)

/-- What stands in front of the revision. -/
def noteFront : List Char := "\x7b\"schema\":1,\"revision\":".toList

/-- What stands behind it. -/
def noteTail (note : Option String) : List Char :=
  ",\"rules\":[],\"schedules\":[]".toList ++ match note with
    | none => ['}']
    | some note => ",\"note\":\"".toList ++ (note.toList ++ ['"', '}'])

/-- The text of a noted document. -/
def noteText (note : Option String) (revision : ℕ) : String :=
  String.ofList (noteFront ++ (Nat.toDigits 10 revision ++ noteTail note))

/-- The note and the revision of a document. -/
def noteOf (document : Json ℕ) : Option String :=
  match document.member "note" with
  | .str note => some note
  | _ => none

/-- The revision that a document names. -/
def revisionOf (document : Json ℕ) : ℕ :=
  match document.member "revision" with
  | .int revision => revision.toNat
  | _ => 0

/-- The library that knows one note. -/
def noteLibrary (note : String) : JsonLibrary ℕ where
  deserializeJson _ raw :=
    match raw.toList.dropPrefix? noteFront with
    | none => none
    | some rest =>
      match FlatJson.parseNat rest with
      | none => none
      | some (revision, tail) =>
        ([none, some note].find? fun known => noteTail known == tail).map
          (noteDocument · revision)
  serializeJson document := noteText (noteOf document) (revisionOf document)
  setMember _ document key value := document.withMember key value

/-- What the library prints it reads back. -/
theorem noteLibrary_reads {note : String} {known : Option String} (h : known ∈ [none, some note])
    (capacity revision : ℕ) :
    (noteLibrary note).deserializeJson capacity (noteText known revision) =
      some (noteDocument known revision) := by
  have hfront : (noteText known revision).toList.dropPrefix? noteFront =
      some (Nat.toDigits 10 revision ++ noteTail known) := by
    rw [noteText, String.toList_ofList]
    exact List.dropPrefix?_append_of_beq _ (by simp)
  have hnumber : FlatJson.parseNat (Nat.toDigits 10 revision ++ noteTail known) =
      some (revision, noteTail known) := by
    refine FlatJson.parseNat_toDigits revision ?_
    intro c hc
    cases hc
    rfl
  have hfound : ([none, some note].find? fun other => noteTail other == noteTail known) =
      some known := by
    have hdiffer : (noteTail none == noteTail (some note)) = false := by
      rw [beq_eq_false_iff_ne]
      intro heq
      exact absurd (List.append_cancel_left heq) (by simp)
    rcases List.mem_cons.mp h with rfl | hnote
    · simp
    · rw [List.mem_singleton.mp hnote, List.find?_cons_of_neg (by simp [hdiffer])]
      simp
  simp only [noteLibrary, hfront, hnumber, hfound, Option.map_some]

/-- What it reads are its documents. -/
theorem noteLibrary_held {note : String} {document : Json ℕ}
    (h : Held (noteLibrary note) document) :
    ∃ known ∈ [none, some note], ∃ revision, document = noteDocument known revision := by
  obtain ⟨raw, -, hread⟩ := h
  simp only [noteLibrary] at hread
  split at hread
  · cases hread
  · split at hread
    · cases hread
    · rename_i revision tail _
      obtain ⟨known, hfound, heq⟩ := Option.map_eq_some_iff.mp hread
      exact ⟨known, List.mem_of_find?_eq_some hfound, revision, heq.symm⟩

/-- A noted document is stamped with its revision. -/
theorem stamped_note (known : Option String) (revision other : ℕ) :
    stamped (noteDocument known revision) other = noteDocument known other := by
  cases known with
  | none => rfl
  | some note => rfl

/-- The text of a stamped note is that of the note. -/
theorem stampedText_note (note : String) (known : Option String) (revision other : ℕ) :
    stampedText (noteLibrary note) (noteDocument known revision) other = noteText known other := by
  rw [stampedText, stamped_note]
  cases known with
  | none => rfl
  | some known => rfl

/-- A noted document is valid. -/
theorem noteDocument_valid (known : Option String) (revision : ℕ) :
    validateDocument (noteDocument known revision) false = .ok () := by
  cases known with
  | none => rfl
  | some note => rfl

/-- A digit and the other characters of such a text are no zero bytes. -/
theorem cString_noteText {known : Option String} (h : ∀ note, known = some note →
    ∀ c ∈ note.toList, c ≠ '\x00') (revision : ℕ) :
    cString (noteText known revision) = noteText known revision := by
  refine cString_eq_self ?_
  have hfront : ∀ c ∈ noteFront, c ≠ '\x00' := List.forall_iff_forall_mem.mp (by decide)
  have harrays : ∀ c ∈ ",\"rules\":[],\"schedules\":[]".toList, c ≠ '\x00' :=
    List.forall_iff_forall_mem.mp (by decide)
  have hname : ∀ c ∈ ",\"note\":\"".toList, c ≠ '\x00' :=
    List.forall_iff_forall_mem.mp (by decide)
  have hend : ∀ c ∈ ['"', '}'], c ≠ '\x00' := List.forall_iff_forall_mem.mp (by decide)
  have hdigits : ∀ c ∈ Nat.toDigits 10 revision, c ≠ '\x00' := by
    rintro c hc rfl
    exact absurd (Nat.isDigit_of_mem_toDigits (by decide) (by decide) hc) (by decide)
  have htail : ∀ c ∈ noteTail known, c ≠ '\x00' := by
    intro c hc
    rcases List.mem_append.mp hc with hc | hc
    · exact harrays c hc
    cases known with
    | none => exact hend c (List.mem_cons_of_mem _ hc)
    | some note =>
      rcases List.mem_append.mp hc with hc | hc
      · exact hname c hc
      rcases List.mem_append.mp hc with hc | hc
      · exact h note rfl c hc
      · exact hend c hc
  intro c hc
  rw [noteText, String.toList_ofList] at hc
  rcases List.mem_append.mp hc with hc | hc
  · exact hfront c hc
  rcases List.mem_append.mp hc with hc | hc
  · exact hdigits c hc
  · exact htail c hc

/-- The library of notes parses what it has written. -/
theorem noteLibrary_parsesBack {note : String} (h : ∀ c ∈ note.toList, c ≠ '\x00') :
    ParsesBack (noteLibrary note) where
  room := fun _ _ _ _ => rfl
  replaced := fun _ _ _ => rfl
  printed := by
    intro document revision hheld
    obtain ⟨known, hknown, other, rfl⟩ := noteLibrary_held hheld
    rw [stampedText_note]
    refine cString_noteText ?_ revision
    rintro found rfl
    cases List.mem_singleton.mp (List.mem_of_ne_of_mem (by simp) hknown)
    exact h
  reread := by
    intro document revision hheld _ _
    obtain ⟨known, hknown, other, rfl⟩ := noteLibrary_held hheld
    rw [stampedText_note, stamped_note]
    exact noteLibrary_reads hknown JSON_CAPACITY revision

/-- The length of such a text grows with the digits of the revision. -/
theorem length_noteText (known : Option String) (revision : ℕ) :
    (noteText known revision).length =
      49 + (Nat.toDigits 10 revision).length + (known.elim 1 fun note => 11 + note.length) := by
  have hfront : noteFront.length = 23 := by decide
  rw [noteText, String.length_ofList, List.length_append, List.length_append, hfront]
  cases known with
  | none =>
    have htail : (noteTail none).length = 27 := by decide
    rw [htail, Option.elim_none]
    omega
  | some note =>
    have harrays : ",\"rules\":[],\"schedules\":[]".toList.length = 26 := by decide
    have hname : ",\"note\":\"".toList.length = 9 := by decide
    have hrest (arrays name : List Char) :
        (arrays ++ (name ++ (note.toList ++ ['"', '}']))).length =
          arrays.length + (name.length + (note.length + 2)) := by
      simp only [List.length_append, String.length_toList, List.length_cons, List.length_nil]
    have htail : (noteTail (some note)).length = 26 + (9 + (note.length + 2)) :=
      (hrest _ _).trans (congrArg₂ (· + ·) harrays (congrArg (· + _) hname))
    rw [htail, Option.elim_some]
    omega

/-- With a short note the size of such a text is accepted under any revision. -/
theorem sizeInvalid_noteText {known : Option String} {revision : ℕ}
    (hknown : (known.elim 1 fun note => 11 + note.length) ≤ 3000) (hrevision : revision < 2^32) :
    sizeInvalid (noteText known revision) = false := by
  have hdigits := FlatJson.length_toDigits_le hrevision
  simp only [sizeInvalid, length_noteText, MAX_CONFIG_JSON_BYTES, Bool.or_eq_false_iff,
    beq_eq_false_iff_ne, decide_eq_false_iff_not]
  omega

/-- A store without a validator. -/
structure Fresh (revision : ℕ) (s : Store) : Prop where
  /-- The store is in use. -/
  ready : s.ram.configReady = true
  /-- With this revision. -/
  revision : s.ram.activeRevision = revision
  /-- Without a validator. -/
  validator : s.ram.ruleValidator = none

/-- A fresh store has a validator that looks at no revision. -/
theorem Fresh.revisionFree {note : String} {revision : ℕ} (h : Fresh revision s) :
    RevisionFree (noteLibrary note) s.ram.ruleValidator := by
  rw [h.validator]
  exact fun _ _ _ _ _ => rfl

/-- The first boot creates the default document. -/
theorem note_begun {note : String} (h : ∀ c ∈ note.toList, c ≠ '\x00') :
    Fresh 0 (step (noteLibrary note) {} (.begin {})) := by
  have hsize : sizeInvalid (noteText none 0) = false :=
    sizeInvalid_noteText (by decide) (by decide)
  have haccepted : Accepted (noteLibrary note) (noteDocument none 0) :=
    ⟨⟨_, hsize, noteLibrary_reads (by simp) _ _⟩, noteDocument_valid none 0⟩
  have hreads := reads_stamped (noteLibrary_parsesBack h) haccepted (show 0 < 2^32 by decide)
    (by rw [stampedText_note]; exact hsize)
  rw [stampedText_note] at hreads
  obtain ⟨nvs, hcommit⟩ : ∃ nvs, commitSlot (noteLibrary note) {} 0 _ 0 _ {} = _ :=
    commitSlot_clean "default_pointer_write_failed" {} hreads
  have hempty (slot : ℕ) : loadSlot (noteLibrary note) {} slot = none := by
    unfold loadSlot Slots.get
    split <;> rfl
  have hdefault : defaultConfiguration (noteLibrary note) = noteText none 0 := by
    simp [defaultConfiguration, noteLibrary, Json.withMember, Json.lookup_cons_if, noteOf,
      revisionOf, Json.member]
  have hbegun : begin (noteLibrary note) {} {} =
      Store.loaded {} { nvs with slots := nvs.slots.set 1 "" } 0 (noteText none 0, 0) false
        "defaults_created" := by
    unfold begin
    simp only [hempty, hdefault, hcommit, removeSlot1]
    rfl
  rw [step, hbegun]
  exact ⟨rfl, rfl, rfl⟩

/-- An apply of one of its documents succeeds while the size allows it. -/
theorem note_applied {note : String} (h : ∀ c ∈ note.toList, c ≠ '\x00') (known : Option String)
    (hknown : known ∈ [none, some note]) {revision : ℕ} (hs : Fresh revision s)
    (hbound : revision + 1 < UINT32_MAX) (hraw : sizeInvalid (noteText known 0) = false)
    (hsize : sizeInvalid (noteText known (revision + 1)) = false) :
    returned (noteLibrary note) s (.apply {} (noteText known 0)) = some (.ok ()) ∧
      Fresh (revision + 1) (step (noteLibrary note) s (.apply {} (noteText known 0))) := by
  unfold UINT32_MAX at hbound
  have hread := noteLibrary_reads hknown JSON_CAPACITY 0
  have haccepted : Accepted (noteLibrary note) (noteDocument known 0) :=
    ⟨⟨_, hraw, hread⟩, noteDocument_valid known 0⟩
  have hnext : nextRevision {} s.ram = .ok (revision + 1) := by
    have hexhausted : (s.ram.activeRevision == UINT32_MAX) = false := by
      rw [hs.revision]
      exact beq_false_of_ne (by unfold UINT32_MAX; omega)
    unfold nextRevision
    rw [hs.ready, hexhausted, hs.revision]
    rfl
  have hcanonical : canonicalizeCandidate (noteLibrary note) (noteText known 0) (revision + 1) =
      .ok (noteText known (revision + 1)) := by
    have hprinted : (noteLibrary note).serializeJson ((noteLibrary note).setMember JSON_CAPACITY
        ((noteLibrary note).setMember JSON_CAPACITY (noteDocument known 0) "schema"
          (.int SCHEMA_VERSION)) "revision" (.int (revision + 1 : ℕ))) =
        noteText known (revision + 1) := stampedText_note note known 0 (revision + 1)
    unfold canonicalizeCandidate
    rw [hraw, hread]
    simp only [orRefuse, refuseIf, noteDocument_valid, bind, Except.bind]
    rw [hprinted, hsize]
    rfl
  have htext : applyText (noteLibrary note) {} (noteText known 0) s.ram =
      .ok (revision + 1, noteText known (revision + 1)) := by
    unfold applyText
    rw [hnext]
    simp only [bind, Except.bind, hcanonical, hs.validator, checkSemantics]
    rfl
  have hnextRevision : s.ram.activeRevision + 1 < 2^32 := by
    rw [hs.revision]
    omega
  have hreads := reads_stamped (noteLibrary_parsesBack h) haccepted hnextRevision
    (by rw [stampedText_note, hs.revision]; exact hsize)
  obtain ⟨t, hactivated, htook⟩ := activate_took hs.ready hreads "applied"
  rw [stampedText_note, hs.revision] at hactivated
  rw [returned, step, apply, htext]
  dsimp only
  rw [hactivated]
  refine ⟨rfl, htook.ready, ?_, ?_⟩
  · rw [htook.revision, hs.revision]
  · rw [htook.validator, hs.validator]

/-- There are notes of every length. -/
theorem exists_note (length : ℕ) :
    ∃ note : String, (∀ c ∈ note.toList, c ≠ '\x00') ∧ note.length = length := by
  refine ⟨String.ofList (List.replicate length 'x'), ?_, ?_⟩
  · intro c hc
    rw [String.toList_ofList] at hc
    rw [List.eq_of_mem_replicate hc]
    decide
  · rw [String.length_ofList, List.length_replicate]

/-- A boot, and applies of the document without a note. -/
theorem note_run {note : String} (h : ∀ c ∈ note.toList, c ≠ '\x00') (count : ℕ)
    (hcount : count < 2^31) :
    Fresh count (run (step (noteLibrary note)) {}
      (.begin {} :: List.replicate count (.apply {} (noteText none 0)))) := by
  induction count with
  | zero =>
    rw [List.replicate_zero, run_cons, run_nil]
    exact note_begun h
  | succ count ih =>
    have hsize {revision : ℕ} (hrevision : revision < 2^32) :
        sizeInvalid (noteText none revision) = false :=
      sizeInvalid_noteText (by decide) hrevision
    have hnext := note_applied h none (by simp) (ih (by omega)) (by unfold UINT32_MAX; omega)
      (hsize (by omega)) (hsize (by omega))
    rw [List.replicate_succ', ← List.cons_append, run_append, run_cons, run_nil]
    exact hnext.2

/-- A rollback to the note succeeds only where its size is accepted once more. -/
theorem note_rolledBack {note : String} (h : ∀ c ∈ note.toList, c ≠ '\x00') {revision : ℕ}
    (hs : Fresh revision s) (hbound : revision + 3 < UINT32_MAX)
    (hfirst : returned (noteLibrary note) s (.apply {} (noteText (some note) 0)) = some (.ok ()))
    (hsecond : returned (noteLibrary note)
      (step (noteLibrary note) s (.apply {} (noteText (some note) 0)))
      (.apply {} (noteText none 0)) = some (.ok ()))
    (hok : returned (noteLibrary note)
      (rolledBack (noteLibrary note) (step (noteLibrary note)
        (step (noteLibrary note) s (.apply {} (noteText (some note) 0)))
        (.apply {} (noteText none 0))) 0) (.rollback {}) = some (.ok ())) :
    sizeInvalid (noteText (some note) (revision + 3)) = false := by
  unfold UINT32_MAX at hbound
  obtain ⟨a, b, hreadA, -, -, hholds, hchecked⟩ := applied_twice (noteLibrary_parsesBack h)
    hs.revisionFree (by rw [hs.revision]; omega) hfirst hsecond
  rw [noteLibrary_reads (by simp)] at hreadA
  cases hreadA
  have hnext : s.ram.activeRevision + 1 + 1 + 0 < UINT32_MAX := by
    unfold UINT32_MAX
    rw [hs.revision]
    omega
  have hiff := rolledBack_ok_iff (noteLibrary_parsesBack h) hholds hchecked hnext (by simp)
  have hsize := hiff.mp hok
  rw [hs.revision, returnsTo, if_pos rfl, stampedText_note] at hsize
  exact hsize

/-! ### Rolling back again and again -/

/-- After a run and two applies, the active document is the second candidate, and the
rollbacks that follow succeed and return to the two candidates in turn, each step under
the next revision. -/
def Alternates (lib : JsonLibrary α) (events : List Event) (first second : String) (count : ℕ) :
    Prop :=
  let revision := (run (step lib) {} events).ram.activeRevision
  let applied := run (step lib) {} (events ++ [.apply {} first])
  let s := run (step lib) {} (events ++ [.apply {} first, .apply {} second])
  Activates lib applied first (revision + 1) ∧ Activates lib s second (revision + 2) ∧
    ∀ k < count, returned lib (rolledBack lib s k) (.rollback {}) = some (.ok ()) ∧
      Activates lib (rolledBack lib s (k + 1)) (returnsTo first second k) (revision + 3 + k)

/-- After two applies that succeed, in every state that a run reaches, the rollbacks
alternate exactly when each candidate has an accepted size under the revision that it
is returned to. -/
theorem rollback_alternates (lib : JsonLibrary α) (hlib : ParsesBack lib) (events : List Event)
    (first second : String) (count : ℕ)
    (hfree : RevisionFree lib (run (step lib) {} events).ram.ruleValidator)
    (hbound : (run (step lib) {} events).ram.activeRevision + 2 + count ≤ UINT32_MAX)
    (hfirst : returned lib (run (step lib) {} events) (.apply {} first) = some (.ok ()))
    (hsecond : returned lib (run (step lib) {} (events ++ [.apply {} first]))
      (.apply {} second) = some (.ok ())) :
    Alternates lib events first second count ↔
      ∀ k < count, sizeInvalid (textUnder lib (returnsTo first second k)
        ((run (step lib) {} events).ram.activeRevision + 3 + k)) = false := by
  have happlied : run (step lib) {} (events ++ [.apply {} first]) =
      step lib (run (step lib) {} events) (.apply {} first) := by
    rw [run_append, run_cons, run_nil]
  have hs : run (step lib) {} (events ++ [.apply {} first, .apply {} second]) =
      step lib (step lib (run (step lib) {} events) (.apply {} first)) (.apply {} second) := by
    rw [run_append, run_cons, run_cons, run_nil]
  unfold Alternates
  unfold UINT32_MAX at hbound
  rw [happlied] at hsecond ⊢
  rw [hs]
  generalize run (step lib) {} events = u at hfree hbound hfirst hsecond
  dsimp only
  obtain ⟨a, b, hreadA, hreadB, hactiveA, hholds, hchecked⟩ :=
    applied_twice hlib hfree (by omega) hfirst hsecond
  have hread (k : ℕ) : lib.deserializeJson JSON_CAPACITY (returnsTo first second k) =
      some (returnsTo a b k) := by
    unfold returnsTo
    split
    · exact hreadA
    · exact hreadB
  have htext (k : ℕ) : textUnder lib (returnsTo first second k) (u.ram.activeRevision + 3 + k) =
      stampedText lib (returnsTo a b k) (u.ram.activeRevision + 1 + 2 + k) := by
    rw [textUnder, hread]
  have hactiveB := activates_of_raw hlib hreadB (hchecked 1 0).1 (by omega)
    hholds.activeRevision hholds.raw
  simp only [htext]
  constructor
  · rintro ⟨-, -, hrollbacks⟩
    intro k hk
    -- the sizes of the rollbacks before this one come first
    induction k using Nat.strongRecOn with
    | ind k ih =>
      have hbefore : ∀ j < k, sizeInvalid (stampedText lib (returnsTo a b j)
          (u.ram.activeRevision + 1 + 2 + j)) = false := fun j hj => ih j hj (by omega)
      exact (rolledBack_ok_iff hlib hholds hchecked (by unfold UINT32_MAX; omega) hbefore).mp
        (hrollbacks k hk).1
  · intro hfits
    refine ⟨hactiveA, hactiveB, fun k hk => ?_⟩
    have hbefore : ∀ j < k, sizeInvalid (stampedText lib (returnsTo a b j)
        (u.ram.activeRevision + 1 + 2 + j)) = false := fun j hj => hfits j (by omega)
    have hok := rolledBack_ok_iff hlib hholds hchecked (by unfold UINT32_MAX; omega) hbefore
    have hafter : ∀ j < k + 1, sizeInvalid (stampedText lib (returnsTo a b j)
        (u.ram.activeRevision + 1 + 2 + j)) = false := fun j hj => hfits j (by omega)
    have hnext := (rolledBack_holds hlib hholds hchecked (by unfold UINT32_MAX; omega) hafter).1
    rw [returnsTo_add_two] at hnext
    refine ⟨hok.mpr (hfits k hk),
      activates_of_raw hlib (hread k) (hchecked k 0).1 (by omega) ?_ ?_⟩
    · rw [hnext.activeRevision]
      omega
    · rw [hnext.raw]
      congr 1
      omega

/-- A document with a note and one without change places twice. -/
theorem rollback_alternates_sample :
    Alternates (noteLibrary "cold") [.begin {}] (noteText (some "cold") 0) (noteText none 0) 2 := by
  have hplain : ∀ c ∈ "cold".toList, c ≠ '\x00' := List.forall_iff_forall_mem.mp (by decide)
  have hbegun := note_begun hplain
  have hsize (known : Option String) (hknown : known ∈ [none, some "cold"]) (revision : ℕ)
      (hrevision : revision < 2^32) : sizeInvalid (noteText known revision) = false := by
    refine sizeInvalid_noteText ?_ hrevision
    rcases List.mem_cons.mp hknown with rfl | hnote
    · decide
    · rw [List.mem_singleton.mp hnote]
      decide
  have hfirst := note_applied hplain (some "cold") (by simp) hbegun (by decide)
    (hsize _ (by simp) 0 (by decide)) (hsize _ (by simp) 1 (by decide))
  have hsecond := note_applied hplain none (by simp) hfirst.2 (by decide)
    (hsize _ (by simp) 0 (by decide)) (hsize _ (by simp) 2 (by decide))
  have hrun : run (step (noteLibrary "cold")) {} [.begin {}] =
      step (noteLibrary "cold") {} (.begin {}) := by rw [run_cons, run_nil]
  refine (rollback_alternates _ (noteLibrary_parsesBack hplain) [.begin {}] _ _ 2 ?_ ?_ ?_
    ?_).mpr ?_
  · rw [hrun]
    exact hbegun.revisionFree
  · rw [hrun, hbegun.revision]
    decide
  · rw [hrun]
    exact hfirst.1
  · rw [run_append, hrun, run_cons, run_nil]
    exact hsecond.1
  · intro k hk
    have hread (known : Option String) (hknown : known ∈ [none, some "cold"]) (revision : ℕ) :
        textUnder (noteLibrary "cold") (noteText known 0) revision = noteText known revision := by
      rw [textUnder, noteLibrary_reads hknown]
      exact stampedText_note _ _ _ _
    rw [hrun, hbegun.revision]
    unfold returnsTo
    split
    · rw [hread _ (by simp)]
      exact hsize _ (by simp) _ (by omega)
    · rw [hread _ (by simp)]
      exact hsize _ (by simp) _ (by omega)

/-- A note of 3011 bytes fills the 3072 bytes under revision 9; under revision 11 the
text has one byte too many, and the rollback is refused. -/
theorem rollback_tooLong :
    ¬ ∀ (lib : JsonLibrary ℕ), ParsesBack lib → ∀ events first second count,
      RevisionFree lib (run (step lib) {} events).ram.ruleValidator →
      (run (step lib) {} events).ram.activeRevision + 2 + count ≤ UINT32_MAX →
      returned lib (run (step lib) {} events) (.apply {} first) = some (.ok ()) →
      returned lib (run (step lib) {} (events ++ [.apply {} first])) (.apply {} second) =
        some (.ok ()) →
      Alternates lib events first second count := by
  intro h
  obtain ⟨note, hplain, hlength⟩ := exists_note 3011
  have hlong (revision : ℕ) : (noteText (some note) revision).length =
      3071 + (Nat.toDigits 10 revision).length := by
    rw [length_noteText, Option.elim_some, hlength]
    omega
  have hfits : ∀ revision < 10, sizeInvalid (noteText (some note) revision) = false := by
    intro revision hrevision
    have hdigits : (Nat.toDigits 10 revision).length ≤ 1 := by
      rw [Nat.length_toDigits_le_iff (by decide) (by decide)]
      exact hrevision
    simp only [sizeInvalid, hlong, MAX_CONFIG_JSON_BYTES, Bool.or_eq_false_iff,
      beq_eq_false_iff_ne, decide_eq_false_iff_not]
    omega
  have hshort : ∀ revision < 11, sizeInvalid (noteText none revision) = false := fun revision h =>
    sizeInvalid_noteText (by decide) (Nat.lt_trans h (by decide))
  have hrun := note_run hplain 8 (by decide)
  have hfirst := note_applied hplain (some note) (by simp) hrun (by decide)
    (hfits 0 (by decide)) (hfits 9 (by decide))
  have hsecond := note_applied hplain none (by simp) hfirst.2 (by decide)
    (hshort 0 (by decide)) (hshort 10 (by decide))
  have halternates := h (noteLibrary note) (noteLibrary_parsesBack hplain)
    (.begin {} :: List.replicate 8 (.apply {} (noteText none 0))) (noteText (some note) 0)
    (noteText none 0) 1
  unfold Alternates at halternates
  rw [run_append, run_append] at halternates
  generalize run (step (noteLibrary note)) {}
    (.begin {} :: List.replicate 8 (.apply {} (noteText none 0))) = s
    at hrun hfirst hsecond halternates
  have hone (e : Event) : run (step (noteLibrary note)) s [e] = step (noteLibrary note) s e := by
    rw [run_cons, run_nil]
  have htwo (e f : Event) : run (step (noteLibrary note)) s [e, f] =
      step (noteLibrary note) (step (noteLibrary note) s e) f := by
    rw [run_cons, run_cons, run_nil]
  rw [hone, htwo] at halternates
  obtain ⟨-, -, hrollbacks⟩ :=
    halternates hrun.revisionFree (by rw [hrun.revision]; decide) hfirst.1 hsecond.1
  -- the first rollback returns to the note, under revision 11
  have hsize := note_rolledBack hplain hrun (by decide) hfirst.1 hsecond.1
    (hrollbacks 0 (by decide)).1
  have hdigits : (Nat.toDigits 10 11).length = 2 := by decide
  simp only [sizeInvalid, hlong, hdigits, MAX_CONFIG_JSON_BYTES] at hsize
  exact absurd hsize (by decide)

end ProjEsp32.ConfigurationAlternation
