import ProjEsp32.ConfigurationStore
import ProjEsp32.IndexLoops

/-!
# The entries of a configuration

The array of rules and the array of schedules are checked by two nested loops, which
read the elements by index: the outer one checks an entry, and the inner one compares
its identifier with those of the entries before. What the loops accept is said once
here for the array as a whole, and so is what it means for the documents that are
committed.
-/

namespace ProjEsp32.EntryArrays

open ArduinoJson ArduinoText CheckedResult ConfigurationDocument ConfigurationStore IndexLoops
open TwoSlots

variable {α : Type}

/-- `array[index]`, null behind the last element. -/
def element (array : List (Json α)) (index : ℕ) : Json α := (array[index]?).getD .null

/-- `entry["id"] | ""`. -/
def entryId (entry : Json α) : String := (entry.member "id").orCStr ""

/-- A turn of the outer loop of `validateEntryArray`; the inner loop is a `strcmp` for
every entry before. -/
def checkEntry (array : List (Json α)) (i : ℕ) : Except String Unit := do
  let entry := element array i
  refuseIf (!entry.isObject) "configuration_entry_not_object"
  refuseIf (!(entry.member "id").isCStr || !validId (entryId entry))
    "configuration_entry_id_invalid"
  refuseIf (entry.containsKey "enabled" && !(entry.member "enabled").isBool)
    "configuration_entry_enabled_invalid"
  refuseIf (!allFrom (fun j => entryId (element array j) != entryId entry) i 0)
    "configuration_entry_id_duplicate"

/-- `validateEntryArray`, with the indices of its loops. -/
def validateEntryArray (array : List (Json α)) (limit : ℕ) : Except String Unit := do
  refuseIf (limit < array.length) "configuration_entry_limit"
  checkFrom (checkEntry array) array.length 0

/-- A character that an identifier may have. -/
def Permitted (c : Char) : Prop :=
  ('a' ≤ c ∧ c ≤ 'z') ∨ ('A' ≤ c ∧ c ≤ 'Z') ∨ ('0' ≤ c ∧ c ≤ '9') ∨
    c = '_' ∨ c = '-' ∨ c = '.' ∨ c = ':'

/-- An entry on its own: an object whose `id` is a string that is, as a C string, of 1 to
48 permitted characters, and whose `enabled` is a boolean if it is there. -/
structure ValidEntry (entry : Json α) : Prop where
  /-- The entry is an object. -/
  object : entry.isObject = true
  /-- Its identifier is a text. -/
  string : (entry.member "id").isCStr = true
  /-- Of 1 to 48 characters. -/
  length : 1 ≤ (entryId entry).length ∧ (entryId entry).length ≤ 48
  /-- Each of which is permitted. -/
  characters : ∀ c ∈ (entryId entry).toList, Permitted c
  /-- A member `enabled` is a truth value. -/
  enabled : entry.containsKey "enabled" = true → (entry.member "enabled").isBool = true

/-- An array of entries. -/
structure ValidEntries (array : List (Json α)) (limit : ℕ) : Prop where
  /-- There are not too many entries. -/
  length : array.length ≤ limit
  /-- Each of them is valid. -/
  entries : ∀ entry ∈ array, ValidEntry entry
  /-- No two have the same identifier. -/
  distinct : (array.map entryId).Pairwise (· ≠ ·)

/-! ### One entry -/

/-- The test of an identifier, spelled out. -/
theorem validId_iff {id : String} :
    validId id = true ↔ (1 ≤ id.length ∧ id.length ≤ 48) ∧ ∀ c ∈ id.toList, Permitted c := by
  have hchar (c : Char) : (isalnum c || c == '_' || c == '-' || c == '.' || c == ':') = true ↔
      Permitted c := by
    simp only [isalnum, Permitted, Bool.or_eq_true, Bool.and_eq_true, decide_eq_true_eq, beq_iff_eq]
    tauto
  simp only [validId, Bool.and_eq_true, bne_iff_ne, decide_eq_true_eq, List.all_eq_true, hchar]
  rw [Nat.one_le_iff_ne_zero]
  exact Iff.rfl

/-- What the first three tests of a turn let pass. -/
theorem validEntry_iff {entry : Json α} :
    ValidEntry entry ↔ (!entry.isObject) = false ∧
      (!(entry.member "id").isCStr || !validId (entryId entry)) = false ∧
      (entry.containsKey "enabled" && !(entry.member "enabled").isBool) = false := by
  simp only [Bool.not_eq_false', Bool.or_eq_false_iff, validId_iff]
  constructor
  · intro h
    refine ⟨h.object, ⟨h.string, h.length, h.characters⟩, ?_⟩
    by_cases hkey : entry.containsKey "enabled" = true
    · rw [h.enabled hkey, Bool.not_true, Bool.and_false]
    · rw [Bool.eq_false_iff.mpr hkey, Bool.false_and]
  · rintro ⟨hobject, ⟨hstring, hlength, hcharacters⟩, henabled⟩
    refine ⟨hobject, hstring, hlength, hcharacters, fun hkey => ?_⟩
    rwa [hkey, Bool.true_and, Bool.not_eq_false'] at henabled

/-- A turn of the outer loop. -/
theorem checkEntry_eq_ok {array : List (Json α)} {i : ℕ} :
    checkEntry array i = .ok () ↔ ValidEntry (element array i) ∧
      ∀ j, j < i → entryId (element array j) ≠ entryId (element array i) := by
  have hinner : (!allFrom (fun j => entryId (element array j) != entryId (element array i)) i 0) =
      false ↔ ∀ j, j < i → entryId (element array j) ≠ entryId (element array i) := by
    rw [Bool.not_eq_false', allFrom_eq_true]
    constructor
    · intro h j hj
      exact bne_iff_ne.mp (h j (Nat.zero_le j) (by omega))
    · intro h j _ hj
      exact bne_iff_ne.mpr (h j (by omega))
  rw [validEntry_iff, ← hinner]
  simp only [checkEntry, bind_eq_ok, refuseIf_eq_ok]
  constructor
  · rintro ⟨_, hobject, _, hid, _, henabled, hdistinct⟩
    exact ⟨⟨hobject, hid, henabled⟩, hdistinct⟩
  · rintro ⟨⟨hobject, hid, henabled⟩, hdistinct⟩
    exact ⟨(), hobject, (), hid, (), henabled, hdistinct⟩

/-- Every error of a turn is a text. -/
theorem checkEntry_refuses (array : List (Json α)) (i : ℕ) :
    RefusesWith (· ≠ "") (checkEntry array i) :=
  .bind (refusesWith_refuseIf (by decide)) fun _ =>
    .bind (refusesWith_refuseIf (by decide)) fun _ =>
      .bind (refusesWith_refuseIf (by decide)) fun _ => refusesWith_refuseIf (by decide)

/-! ### The array -/

/-- The loops accept exactly the arrays that are short enough, whose elements are valid
entries, and whose identifiers are pairwise distinct. -/
theorem validateEntryArray_eq_ok {array : List (Json α)} {limit : ℕ} :
    validateEntryArray array limit = .ok () ↔ ValidEntries array limit := by
  have hentries : checkFrom (checkEntry array) array.length 0 = .ok () ↔
      (∀ entry ∈ array, ValidEntry entry) ∧ (array.map entryId).Nodup := by
    rw [checkFrom_eq_ok, nodup_map_iff Json.null, ← forall_index Json.null]
    simp only [checkEntry_eq_ok]
    constructor
    · intro h
      exact ⟨fun k hle hlt => (h k hle hlt).1, fun i hi => (h i (Nat.zero_le i) (by omega)).2⟩
    · rintro ⟨hvalid, hdistinct⟩ k hle hlt
      exact ⟨hvalid k hle hlt, hdistinct k (by omega)⟩
  simp only [validateEntryArray, bind_eq_ok, refuseIf_eq_ok, hentries, decide_eq_false_iff_not,
    Nat.not_lt]
  constructor
  · rintro ⟨_, hlength, hvalid, hdistinct⟩
    exact ⟨hlength, hvalid, List.nodup_iff_pairwise_ne.mp hdistinct⟩
  · intro h
    exact ⟨(), h.length, h.entries, List.nodup_iff_pairwise_ne.mpr h.distinct⟩

/-- A refusal has a reason. -/
theorem validateEntryArray_refuses (array : List (Json α)) (limit : ℕ) :
    RefusesWith (· ≠ "") (validateEntryArray array limit) := by
  refine .bind (refusesWith_refuseIf (by decide)) fun _ => fun error herror => ?_
  obtain ⟨k, hk⟩ := checkFrom_eq_error herror
  exact checkEntry_refuses array k error hk

/-- The inner loop looks for the identifier among those of the entries before. -/
theorem contains_eq {array : List (Json α)} {i : ℕ} (hi : i < array.length) (id : String) :
    (!allFrom (fun j => entryId (element array j) != id) i 0) =
      ((array.take i).map entryId).contains id := by
  rw [Bool.eq_iff_iff, Bool.not_eq_true', ← Bool.not_eq_true, allFrom_eq_true,
    List.contains_iff_mem, List.mem_map]
  push Not
  constructor
  · rintro ⟨j, _, hj, heq⟩
    have hlt : j < array.length := by omega
    refine ⟨element array j, ?_, by simpa using heq⟩
    rw [element, List.getElem?_eq_getElem hlt, Option.getD_some, List.mem_take_iff_getElem]
    exact ⟨j, by omega, rfl⟩
  · rintro ⟨entry, hmem, heq⟩
    obtain ⟨j, hj, hget⟩ := List.mem_take_iff_getElem.mp hmem
    have hlt : j < array.length := by omega
    refine ⟨j, Nat.zero_le j, by omega, ?_⟩
    rw [element, List.getElem?_eq_getElem hlt, Option.getD_some, hget, heq]
    simp

/-- From any index on, the loops do what a recursion does that carries the identifiers of
the entries before. -/
theorem checkFrom_eq (array : List (Json α)) (turns : ℕ) {i : ℕ} (h : i + turns = array.length) :
    checkFrom (checkEntry array) turns i =
      validateEntries ((array.take i).map entryId) (array.drop i) := by
  induction turns generalizing i with
  | zero =>
    rw [List.drop_eq_nil_of_le (by omega)]
    rfl
  | succ turns ih =>
    have hi : i < array.length := by omega
    have helement : element array i = array[i] := by
      rw [element, List.getElem?_eq_getElem hi, Option.getD_some]
    have htake : (array.take (i + 1)).map entryId =
        (array.take i).map entryId ++ [entryId array[i]] := by
      rw [List.take_succ_eq_append_getElem hi, List.map_append, List.map_singleton]
    have hid : (!(array[i].member "id").isCStr || !validId (entryId array[i])) =
        (!((array[i].member "id").isCStr && validId (entryId array[i]))) :=
      (Bool.not_and _ _).symm
    rw [List.drop_eq_getElem_cons hi, validateEntries, checkFrom_succ, ih (by omega), htake,
      checkEntry, helement, contains_eq hi, hid]
    simp only [bind_assoc]
    rfl

/-- The two forms of `validateEntryArray`. -/
theorem validateEntryArray_eq (array : List (Json α)) (limit : ℕ) :
    validateEntryArray array limit = ConfigurationDocument.validateEntryArray array limit := by
  have hentries := checkFrom_eq array array.length (Nat.zero_add array.length)
  rw [List.take_zero, List.map_nil, List.drop_zero] at hentries
  rw [validateEntryArray, hentries, ConfigurationDocument.validateEntryArray]

/-! ### Documents -/

/-- The identifiers of the rules are pairwise distinct, and so are those of the
schedules. -/
structure DistinctIds (document : Json α) : Prop where
  /-- No two rules have the same identifier. -/
  rules : ((document.member "rules").asArray.map entryId).Pairwise (· ≠ ·)
  /-- And no two schedules. -/
  schedules : ((document.member "schedules").asArray.map entryId).Pairwise (· ≠ ·)

/-- The entries of a document that is accepted. -/
theorem validEntries_of_validateDocument {document : Json α} {requireRevision : Bool}
    (h : validateDocument document requireRevision = .ok ()) :
    ValidEntries (document.member "rules").asArray MAX_RULES ∧
      ValidEntries (document.member "schedules").asArray MAX_SCHEDULES := by
  simp only [validateDocument, bind_eq_ok] at h
  obtain ⟨_, _, _, _, _, _, _, _, _, hrules, hschedules⟩ := h
  rw [← validateEntryArray_eq] at hrules hschedules
  exact ⟨validateEntryArray_eq_ok.mp hrules, validateEntryArray_eq_ok.mp hschedules⟩

/-- Whatever a slot is read as. -/
theorem distinctIds_of_loadText {lib : JsonLibrary α} {raw : String} {active : String × ℕ}
    (h : loadText lib raw = some active) :
    ∃ document, lib.deserializeJson JSON_CAPACITY raw = some document ∧ DistinctIds document := by
  obtain ⟨document, hread, hvalid, -⟩ := document_of_loadText h
  obtain ⟨hrules, hschedules⟩ := validEntries_of_validateDocument hvalid
  exact ⟨document, hread, hrules.distinct, hschedules.distinct⟩

/-- An activation leaves the preferences as its commit does. -/
theorem activate_nvs (lib : JsonLibrary α) (faults : Faults) (raw : String) (revision : ℕ)
    (result : String) (s : Store) :
    (activate lib faults raw revision result s).1.nvs =
      (commitSlot lib faults (otherSlot s.ram.activeSlot) raw revision
        "configuration_pointer_write_failed" s.nvs).1 := by
  unfold activate
  dsimp only
  generalize commitSlot lib faults (otherSlot s.ram.activeSlot) raw revision
    "configuration_pointer_write_failed" s.nvs = out
  obtain ⟨nvs, _ | (error | verified)⟩ := out
  · rfl
  · rfl
  · rfl

/-- When `apply` writes the pointer, also when power is lost right after it, the slot that
is then selected holds a text that was read back. -/
theorem apply_commits {lib : JsonLibrary α} {faults : Faults} {candidateJson : String} {s : Store}
    (h : (apply lib faults candidateJson s).1.nvs.pointerWrites ≠ s.nvs.pointerWrites) :
    ∃ revision raw, Committed lib (otherSlot s.ram.activeSlot) raw revision s.nvs
      (apply lib faults candidateJson s).1.nvs := by
  unfold apply at h ⊢
  cases htext : applyText lib faults candidateJson s.ram with
  | error error =>
    rw [htext] at h
    exact absurd rfl h
  | ok text =>
    obtain ⟨revision, raw⟩ := text
    rw [htext] at h
    dsimp only at h ⊢
    rw [activate_nvs] at h ⊢
    rcases commitSlot_cases lib faults (otherSlot s.ram.activeSlot) raw revision
      "configuration_pointer_write_failed" s.nvs with ⟨hstopped, -⟩ | ⟨hcommitted, -⟩
    · exact absurd hstopped.pointerWrites h
    · exact ⟨revision, raw, hcommitted⟩

/-- The loops accept an array exactly when it is an array of valid entries with pairwise
distinct identifiers, and give a reason otherwise; and the document that an `apply`
commits has distinct identifiers, whatever it was called with and in whatever state. -/
theorem validateEntryArray_exact :
    (∀ (array : List (Json α)) (limit : ℕ),
      (validateEntryArray array limit = .ok () ↔ ValidEntries array limit) ∧
        ∀ error, validateEntryArray array limit = .error error → error ≠ "") ∧
    ∀ (lib : JsonLibrary α) (faults : Faults) (candidateJson : String) (s : Store),
      let t := (apply lib faults candidateJson s).1
      t.nvs.pointerWrites ≠ s.nvs.pointerWrites →
        ∃ document, lib.deserializeJson JSON_CAPACITY (t.nvs.slots.get (t.nvs.active.getD 0)) =
          some document ∧ DistinctIds document := by
  refine ⟨fun array limit => ⟨validateEntryArray_eq_ok, validateEntryArray_refuses array limit⟩, ?_⟩
  intro lib faults candidateJson s t hcommits
  obtain ⟨revision, raw, hcommitted⟩ := apply_commits hcommits
  have hselected : t.nvs.slots.get (t.nvs.active.getD 0) = raw := by
    rw [hcommitted.active, hcommitted.slots]
    simp
  rw [hselected]
  exact distinctIds_of_loadText hcommitted.reads.2

/-- A library whose texts are all the same document, with two rules. -/
def twoRules : JsonLibrary ℕ where
  deserializeJson _ _ := some (.obj [("schema", .int 1), ("revision", .int 1),
    ("rules", .arr [.obj [("id", .str "first")], .obj [("id", .str "second")]]),
    ("schedules", .arr [])])
  serializeJson _ := "document"
  setMember _ document _ _ := document

/-- An `apply` of it commits it, and with its first rule twice it would be refused. -/
example :
    let t := (apply twoRules {} "document" { ram := { configReady := true } }).1
    (t.nvs.active = some 1 ∧ t.nvs.pointerWrites = 1) ∧
      validateEntryArray [(.obj [("id", .str "first")] : Json ℕ), .obj [("id", .str "first")]] 16 =
        .error "configuration_entry_id_duplicate" := by
  decide +kernel

end ProjEsp32.EntryArrays
