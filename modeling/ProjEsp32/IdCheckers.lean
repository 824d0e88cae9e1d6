import ProjEsp32.CStrings
import ProjEsp32.EntryArrays
import ProjEsp32.LocalSchedules
import ProjEsp32.RuleLoading

/-!
# The four checks of an identifier

The configuration store, the rule engine, the loader of the persisted rule and the
local schedule each have a check of their own, over C strings or Arduino strings, with
or without a cast of the character, and with `isalnum` or with ranges. They are one
and the same test of the bytes of an identifier, so that none of them refuses what
another has stored.
-/

namespace ProjEsp32.IdCheckers

open ArduinoJson ArduinoText CheckedResult CStrings EntryArrays IndexLoops RuleEvaluation

variable {α : Type}

/-- The test of a character that is cast to `unsigned char`. -/
def castCharacter (c : ℤ) : Bool :=
  let c := unsignedChar c
  isalnumByte c || c == code '_' || c == code '-' || c == code '.' || c == code ':'

/-- The test of a plain `char`. -/
def plainCharacter (c : ℤ) : Bool :=
  ((code 'a' : ℤ) ≤ c && c ≤ code 'z') || ((code 'A' : ℤ) ≤ c && c ≤ code 'Z') ||
    ((code '0' : ℤ) ≤ c && c ≤ code '9') || c == code '_' || c == code '-' || c == code '.' ||
    c == code ':'

/-- `validId` of the configuration store; no C string is a null pointer. -/
def ConfigurationStore.validId (signed : Bool) : Option CString → Bool
  | none => false
  | some value =>
    let length := strlen value
    if length = 0 ∨ ConfigurationDocument.MAX_ID_LENGTH < length then false
    else allFrom (fun i => castCharacter (value.get signed i)) length 0

/-- `RuleEngine::validId`. -/
def RuleEngine.validId (signed : Bool) (id : ArduinoString) : Bool :=
  if id.length = 0 ∨ 48 < id.length then false
  else allFrom (fun i => castCharacter (id.get signed i)) id.length 0

/-- The check of `rule.id` in `PersistedRuleLoader::parseDocument`. -/
def PersistedRuleLoader.checkId (signed : Bool) (id : ArduinoString) : Except String Unit :=
  if id.length = 0 ∨ 48 < id.length then .error "rule_id_invalid"
  else checkFrom (fun i => refuseIf (!castCharacter (id.get signed i)) "rule_id_invalid")
    id.length 0

/-- `validId` of the local schedule. -/
def LocalScheduleService.validId (signed : Bool) : Option CString → Bool
  | none => false
  | some value =>
    let length := strlen value
    if length = 0 ∨ LocalSchedules.MAX_ID_LENGTH < length then false
    else allFrom (fun i => plainCharacter (value.get signed i)) length 0

/-! ### Bytes -/

/-- A byte that an identifier may have. -/
def permitted (b : UInt8) : Bool :=
  isalnumByte b.toNat || b.toNat == code '_' || b.toNat == code '-' || b.toNat == code '.' ||
    b.toNat == code ':'

/-- What an identifier is: 1 to 48 permitted bytes. -/
structure IsId (bytes : List UInt8) : Prop where
  /-- The identifier is not empty. -/
  pos : bytes.length ≠ 0
  /-- It has 48 bytes at most. -/
  length_le : bytes.length ≤ 48
  /-- Each of them is permitted. -/
  permitted : ∀ b ∈ bytes, permitted b = true

/-- The cast tests the byte. -/
theorem castCharacter_charValue (signed : Bool) (b : UInt8) :
    castCharacter (charValue signed b) = permitted b := by
  rw [castCharacter, unsignedChar_charValue, permitted]

/-- The character constants of the tests. -/
theorem codes : code 'a' = 97 ∧ code 'z' = 122 ∧ code 'A' = 65 ∧ code 'Z' = 90 ∧ code '0' = 48 ∧
    code '9' = 57 ∧ code '_' = 95 ∧ code '-' = 45 ∧ code '.' = 46 ∧ code ':' = 58 := by decide

/-- The ranges test the byte as well: a byte from 0x80 on is in none of them, whether it
is read as a negative number or not. -/
theorem plainCharacter_charValue (signed : Bool) (b : UInt8) :
    plainCharacter (charValue signed b) = permitted b := by
  obtain ⟨ha, hz, hA, hZ, h0, h9, hline, hdash, hdot, hcolon⟩ := codes
  rw [Bool.eq_iff_iff]
  simp only [plainCharacter, permitted, isalnumByte, ha, hz, hA, hZ, h0, h9, hline, hdash, hdot,
    hcolon, Bool.or_eq_true, Bool.and_eq_true, decide_eq_true_eq, beq_iff_eq]
  rcases charValue_cases signed b with ⟨hsmall, hvalue⟩ | ⟨hlarge, hneg | hvalue⟩
  · rw [hvalue]
    omega
  · omega
  · omega

/-- A loop over the bytes of a string. -/
theorem allFrom_iff {ok : ℤ → Bool} {signed : Bool} {bytes : List UInt8}
    {get : ℕ → ℤ} (hget : ∀ i, i < bytes.length → get i = charValue signed ((bytes[i]?).getD 0))
    (hok : ∀ b, ok (charValue signed b) = permitted b) :
    allFrom (fun i => ok (get i)) bytes.length 0 = true ↔ ∀ b ∈ bytes, permitted b = true := by
  rw [allFrom_eq_true, ← forall_index (0 : UInt8)]
  constructor
  · intro h k hle hlt
    have hk := h k hle hlt
    rwa [hget k (by omega), hok] at hk
  · intro h k hle hlt
    rw [hget k (by omega), hok]
    exact h k hle hlt

/-- The test of the length in front of a loop. -/
theorem bounded_iff {length : ℕ} {rest : Bool} :
    (if length = 0 ∨ 48 < length then false else rest) = true ↔
      length ≠ 0 ∧ length ≤ 48 ∧ rest = true := by
  by_cases hrefused : length = 0 ∨ 48 < length
  · rw [if_pos hrefused]
    constructor
    · intro h
      cases h
    · omega
  · rw [if_neg hrefused]
    push Not at hrefused
    exact ⟨fun h => ⟨hrefused.1, hrefused.2, h⟩, fun h => h.2.2⟩

/-- The store, for the bytes of a C string. -/
theorem store_iff (signed : Bool) (value : CString) :
    ConfigurationStore.validId signed (some value) = true ↔ IsId value.bytes := by
  rw [ConfigurationStore.validId, strlen_eq, ConfigurationDocument.MAX_ID_LENGTH, bounded_iff,
    allFrom_iff (fun i hi => get_of_lt signed hi) (castCharacter_charValue signed)]
  exact ⟨fun h => ⟨h.1, h.2.1, h.2.2⟩, fun h => ⟨h.pos, h.length_le, h.permitted⟩⟩

/-- The local schedule, for the bytes of a C string. -/
theorem schedule_iff (signed : Bool) (value : CString) :
    LocalScheduleService.validId signed (some value) = true ↔ IsId value.bytes := by
  rw [LocalScheduleService.validId, strlen_eq, LocalSchedules.MAX_ID_LENGTH, bounded_iff,
    allFrom_iff (fun i hi => get_of_lt signed hi) (plainCharacter_charValue signed)]
  exact ⟨fun h => ⟨h.1, h.2.1, h.2.2⟩, fun h => ⟨h.pos, h.length_le, h.permitted⟩⟩

/-- The rule engine, for the bytes of any Arduino string. -/
theorem engine_iff (signed : Bool) (id : ArduinoString) :
    RuleEngine.validId signed id = true ↔ IsId id.bytes := by
  have hloop : allFrom (fun i => castCharacter (id.get signed i)) id.length 0 = true ↔
      ∀ b ∈ id.bytes, permitted b = true :=
    allFrom_iff (fun _ _ => rfl) (castCharacter_charValue signed)
  rw [RuleEngine.validId, bounded_iff, hloop]
  exact ⟨fun h => ⟨h.1, h.2.1, h.2.2⟩, fun h => ⟨h.pos, h.length_le, h.permitted⟩⟩

/-- The loader, which refuses instead of answering. -/
theorem loader_iff (signed : Bool) (id : ArduinoString) :
    PersistedRuleLoader.checkId signed id = .ok () ↔ IsId id.bytes := by
  have hloop : checkFrom
      (fun i => refuseIf (!castCharacter (id.get signed i)) "rule_id_invalid") id.length 0 =
        .ok () ↔
      allFrom (fun i => castCharacter (id.get signed i)) id.length 0 = true := by
    rw [checkFrom_eq_ok, allFrom_eq_true]
    simp only [refuseIf_eq_ok, Bool.not_eq_false']
  rw [← engine_iff signed, RuleEngine.validId, bounded_iff, ← hloop]
  unfold PersistedRuleLoader.checkId
  split
  · constructor
    · intro h
      cases h
    · omega
  · rename_i hbounded
    push Not at hbounded
    exact ⟨fun h => ⟨hbounded.1, hbounded.2, h⟩, fun h => h.2.2⟩

/-! ### Texts -/

/-- A byte is permitted exactly when its character is. -/
theorem permitted_iff (b : UInt8) : permitted b = true ↔ Permitted (Char.ofNat b.toNat) := by
  obtain ⟨ha, hz, hA, hZ, h0, h9, hline, hdash, hdot, hcolon⟩ := codes
  have hle (c d : Char) : c ≤ d ↔ code c ≤ code d := by
    rw [Char.le_def, UInt32.le_iff_toNat_le]
    exact Iff.rfl
  have heq (c d : Char) : c = d ↔ code c = code d := Char.toNat_inj.symm
  have hbyte : code (Char.ofNat b.toNat) = b.toNat := toNat_ofByte b
  simp only [permitted, isalnumByte, Permitted, hle, heq, hbyte, ha, hz, hA, hZ, h0, h9, hline,
    hdash, hdot, hcolon, Bool.or_eq_true, Bool.and_eq_true, decide_eq_true_eq, beq_iff_eq]
  omega

/-- The test of the configuration entries, on the text of a C string. -/
theorem document_iff (value : CString) :
    ConfigurationDocument.validId value.text = true ↔ IsId value.bytes := by
  have hcharacters : (∀ c ∈ value.text.toList, Permitted c) ↔
      ∀ b ∈ value.bytes, permitted b = true := by
    rw [CString.text, String.toList_ofList]
    simp only [List.mem_map, permitted_iff]
    constructor
    · intro h b hb
      exact h _ ⟨b, hb, rfl⟩
    · rintro h c ⟨b, hb, rfl⟩
      exact h b hb
  rw [validId_iff, hcharacters, length_text]
  constructor
  · rintro ⟨⟨hpos, hle⟩, hpermitted⟩
    exact ⟨by omega, hle, hpermitted⟩
  · intro h
    exact ⟨⟨Nat.one_le_iff_ne_zero.mpr h.pos, h.length_le⟩, h.permitted⟩

/-- The test of the schedule is the test of the entries, for any text. -/
theorem schedule_validId_eq (text : String) :
    LocalSchedules.validId text = ConfigurationDocument.validId text := by
  have hcharacter : LocalSchedules.validIdCharacter =
      fun c => isalnum c || c == '_' || c == '-' || c == '.' || c == ':' := by
    funext c
    rw [Bool.eq_iff_iff]
    simp only [LocalSchedules.validIdCharacter, isalnum, Bool.or_eq_true]
    tauto
  rw [LocalSchedules.validId, ConfigurationDocument.validId, hcharacter]
  rfl

/-! ### Layers -/

/-- A check that lets the code pass does not refuse. -/
theorem refusesWith_of_passes {P : String → Prop} {refused : Bool} (h : refused = false)
    (text : String) : RefusesWith P (refuseIf refused text) := by
  rw [h]
  exact refusesWith_ok ()

/-- The store does not refuse a valid identifier in a string. -/
theorem store_passes {array : List (Json α)} {i : ℕ}
    (hstring : ((element array i).member "id").isCStr = true)
    (h : ConfigurationDocument.validId (entryId (element array i)) = true) :
    RefusesWith (· ≠ "configuration_entry_id_invalid") (checkEntry array i) := by
  refine .bind (refusesWith_refuseIf (by decide)) fun _ => ?_
  refine .bind (refusesWith_of_passes (by rw [hstring, h]; rfl) _) fun _ => ?_
  exact .bind (refusesWith_refuseIf (by decide)) fun _ => refusesWith_refuseIf (by decide)

/-- The fault policy is refused for other reasons. -/
theorem faultPolicy_passes (object : Json α) :
    RefusesWith (· ≠ "rule_id_invalid") (RuleLoading.parseFaultPolicy object) := by
  unfold RuleLoading.parseFaultPolicy
  split
  · exact .bind (refusesWith_refuseIf (by decide)) fun _ => refusesWith_orRefuse (by decide)
  · exact refusesWith_ok _

/-- The schedule does not refuse a valid identifier. -/
theorem schedule_passes {object : Json α}
    (h : ConfigurationDocument.validId (entryId object) = true) :
    RefusesWith (· ≠ "schedule_id_invalid") (LocalSchedules.parseAction object) := by
  have hid : (!LocalSchedules.validId ((object.member "id").orCStr "")) = false := by
    rw [schedule_validId_eq, ← entryId, h]
    rfl
  refine .bind (refusesWith_of_passes hid _) fun _ => ?_
  refine .bind (refusesWith_refuseIf (by decide)) fun _ => ?_
  refine .bind (refusesWith_refuseIf (by decide)) fun _ => ?_
  refine .bind (refusesWith_refuseIf (by decide)) fun _ => ?_
  refine .bind (refusesWith_refuseIf (by decide)) fun _ => ?_
  refine .bind (refusesWith_refuseIf (by decide)) fun _ => ?_
  exact .bind (refusesWith_refuseIf (by decide)) fun _ => refusesWith_ok _

section Layers

variable [Zero α] [LT α] [DecidableLT α]

/-- No layer refuses the identifier for what it is: not the store in an entry, not the
engine in a rule, not the loader and not the schedule in an object. -/
structure NeverRefused (α : Type) [Zero α] [LT α] [DecidableLT α] (id : String) : Prop where
  /-- The store does not refuse an entry for it. -/
  store : ∀ (array : List (Json α)) i, ((element array i).member "id").isCStr = true →
    entryId (element array i) = id →
      RefusesWith (· ≠ "configuration_entry_id_invalid") (checkEntry array i)
  /-- Nor the engine a rule. -/
  engine : ∀ (rule : HysteresisRule α) engine, rule.id = id →
    RefusesWith (· ≠ "rule_id_invalid") (RuleEngine.configure rule engine)
  /-- Nor the loader an object. -/
  loader : ∀ (lib : RuleLoading.NumberLibrary α) object, entryId object = id →
    RefusesWith (· ≠ "rule_id_invalid") (RuleLoading.parseRule lib object)
  /-- Nor the schedule service one. -/
  schedule : ∀ object : Json α, entryId object = id →
    RefusesWith (· ≠ "schedule_id_invalid") (LocalSchedules.parseAction object)

/-- An identifier that some layer has taken. -/
inductive Stored (α : Type) [Zero α] [LT α] [DecidableLT α] : String → Prop
  | document {document entry : Json α} {requireRevision : Bool}
      (h : ConfigurationDocument.validateDocument document requireRevision = .ok ())
      (hentry : entry ∈ (document.member "rules").asArray ∨
        entry ∈ (document.member "schedules").asArray) : Stored α (entryId entry)
  | engine {rule : HysteresisRule α} {engine configured : RuleEvaluation.RuleEngine α}
      (h : engine.configure rule = .ok configured) : Stored α configured.rule.id
  | loader {lib : RuleLoading.NumberLibrary α} {object : Json α}
      {parsed : HysteresisRule α × ActuatorFaultPolicy}
      (h : RuleLoading.parseRule lib object = .ok parsed) : Stored α parsed.1.id
  | schedule {object : Json α} {action : LocalSchedules.DelayedAction}
      (h : LocalSchedules.parseAction object = .ok action) : Stored α action.id

/-- Nor does the engine. -/
theorem engine_passes {rule : HysteresisRule α} (engine : RuleEvaluation.RuleEngine α)
    (h : ConfigurationDocument.validId rule.id = true) :
    RefusesWith (· ≠ "rule_id_invalid") (RuleEngine.configure rule engine) := by
  have hid : (!RuleEvaluation.RuleEngine.validId rule.id) = false := by
    rw [RuleEvaluation.RuleEngine.validId, h]
    rfl
  refine .bind (refusesWith_of_passes hid _) fun _ => ?_
  exact .bind (refusesWith_refuseIf (by decide)) fun _ =>
    .bind (refusesWith_refuseIf (by decide)) fun _ => refusesWith_ok _

/-- Nor does the loader. -/
theorem loader_passes (lib : RuleLoading.NumberLibrary α) {object : Json α}
    (h : ConfigurationDocument.validId (entryId object) = true) :
    RefusesWith (· ≠ "rule_id_invalid") (RuleLoading.parseRule lib object) := by
  have hid : (!ConfigurationDocument.validId ((object.member "id").orCStr "")) = false := by
    rw [← entryId, h]
    rfl
  refine .bind (refusesWith_refuseIf (by decide)) fun _ => ?_
  refine .bind (refusesWith_refuseIf (by decide)) fun _ => ?_
  refine .bind (refusesWith_refuseIf (by decide)) fun _ => ?_
  refine .bind (refusesWith_refuseIf (by decide)) fun _ => ?_
  refine .bind (refusesWith_refuseIf (by decide)) fun _ => ?_
  refine .bind (refusesWith_refuseIf (by decide)) fun _ => ?_
  refine .bind (faultPolicy_passes object) fun _ => ?_
  refine .bind (refusesWith_refuseIf (by decide)) fun _ => ?_
  exact .bind (refusesWith_of_passes hid _) fun _ => refusesWith_ok _

/-- Every layer takes valid identifiers only. -/
theorem validId_of_stored {id : String} (h : Stored α id) :
    ConfigurationDocument.validId id = true := by
  cases h with
  | @document document entry requireRevision h hentry =>
    obtain ⟨hrules, hschedules⟩ := validEntries_of_validateDocument h
    have hvalid : ValidEntry entry := by
      rcases hentry with hrule | hschedule
      · exact hrules.entries entry hrule
      · exact hschedules.entries entry hschedule
    exact validId_iff.mpr ⟨hvalid.length, hvalid.characters⟩
  | engine h =>
    obtain ⟨hrule, hid⟩ := RuleEngine.configure_rule h
    rwa [hrule]
  | loader h =>
    simp only [RuleLoading.parseRule, bind_eq_ok, refuseIf_eq_ok] at h
    obtain ⟨_, _, _, _, _, _, _, _, _, _, _, _, _, _, _, _, _, hid, hparsed⟩ := h
    cases hparsed
    simpa using hid
  | schedule h =>
    simp only [LocalSchedules.parseAction, bind_eq_ok, refuseIf_eq_ok] at h
    obtain ⟨_, hid, _, _, _, _, _, _, _, _, _, _, _, _, haction⟩ := h
    cases haction
    rw [← schedule_validId_eq]
    simpa using hid

end Layers

/-- The four checks give the same answer for every C string and for a null pointer, be
`char` signed or not, and it is the answer of the model of the documents; so no layer
refuses an identifier that another one has taken. -/
theorem idCheckers_agree [Zero α] [LT α] [DecidableLT α] :
    (∀ (signed : Bool) (value : Option CString),
      RuleEngine.validId signed (.ofCString value) = ConfigurationStore.validId signed value ∧
      (PersistedRuleLoader.checkId signed (.ofCString value) = .ok () ↔
        ConfigurationStore.validId signed value = true) ∧
      LocalScheduleService.validId signed value = ConfigurationStore.validId signed value) ∧
    (∀ (signed : Bool) (value : CString),
      ConfigurationStore.validId signed (some value) =
        ConfigurationDocument.validId value.text) ∧
    ∀ id, Stored α id → NeverRefused α id := by
  refine ⟨fun signed value => ?_, fun signed value => ?_, fun id hid => ?_⟩
  · cases value with
    | none => exact ⟨rfl, ⟨(fun h => by cases h), (fun h => by cases h)⟩, rfl⟩
    | some value =>
      have hengine := engine_iff signed (.ofCString (some value))
      have hloader := loader_iff signed (.ofCString (some value))
      rw [ofCString_bytes, ← store_iff signed] at hengine hloader
      refine ⟨Bool.eq_iff_iff.mpr hengine, hloader, Bool.eq_iff_iff.mpr ?_⟩
      rw [schedule_iff, store_iff]
  · rw [Bool.eq_iff_iff, store_iff, document_iff]
  · have hvalid := validId_of_stored hid
    constructor
    · rintro array i hstring rfl
      exact store_passes hstring hvalid
    · rintro rule engine rfl
      exact engine_passes engine hvalid
    · rintro lib object rfl
      exact loader_passes lib hvalid
    · rintro object rfl
      exact schedule_passes hvalid

end ProjEsp32.IdCheckers
