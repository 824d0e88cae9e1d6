import ProjEsp32.ArduinoJson
import ProjEsp32.CheckedResult

/-!
# Configuration documents

The envelope that the configuration store accepts: schema, revision, and the
two arrays of rules and schedules with their entry checks. What the entries
mean is left to the semantic validator that the store is given.
-/

namespace ProjEsp32.ConfigurationDocument

open ArduinoText ArduinoJson CheckedResult

variable {α : Type}

/-- The schema of the documents. -/
def SCHEMA_VERSION : ℕ := 1

/-- The greatest length of a document. -/
def MAX_CONFIG_JSON_BYTES : ℕ := 3072

/-- The capacity that a document is read with. -/
def JSON_CAPACITY : ℕ := 4096

/-- The capacity that the default document is built in. -/
def DEFAULT_CAPACITY : ℕ := 192

/-- The greatest number of rules. -/
def MAX_RULES : ℕ := 16

/-- The greatest number of schedules. -/
def MAX_SCHEDULES : ℕ := 16

/-- The greatest length of an identifier. -/
def MAX_ID_LENGTH : ℕ := 48

/-- An identifier: a non-empty C string of bounded length and safe characters. -/
def validId (value : String) : Bool :=
  value.length != 0 && value.length ≤ MAX_ID_LENGTH &&
    value.toList.all fun c => isalnum c || c == '_' || c == '-' || c == '.' || c == ':'

/-- The loop of `validateEntryArray`, with the identifiers of the entries
before. -/
def validateEntries : List String → List (Json α) → Except String Unit
  | _, [] => .ok ()
  | previous, entry::entries => do
    refuseIf (!entry.isObject) "configuration_entry_not_object"
    let id := (entry.member "id").orCStr ""
    refuseIf (!((entry.member "id").isCStr && validId id)) "configuration_entry_id_invalid"
    refuseIf (entry.containsKey "enabled" && !(entry.member "enabled").isBool)
      "configuration_entry_enabled_invalid"
    refuseIf (previous.contains id) "configuration_entry_id_duplicate"
    validateEntries (previous ++ [id]) entries

/-- A bounded array of entries with distinct identifiers. -/
def validateEntryArray (array : List (Json α)) (limit : ℕ) : Except String Unit := do
  refuseIf (limit < array.length) "configuration_entry_limit"
  validateEntries [] array

/-- The envelope of a document; a candidate needs no revision. -/
def validateDocument (document : Json α) (requireRevision : Bool) : Except String Unit := do
  refuseIf (!document.isObject) "configuration_root_invalid"
  refuseIf (!((document.member "schema").isUInt 32 &&
    (document.member "schema").asUInt 32 == SCHEMA_VERSION)) "configuration_schema_unsupported"
  refuseIf (requireRevision && !(document.member "revision").isUInt 32)
    "configuration_revision_missing"
  refuseIf (!((document.member "rules").isArray && (document.member "schedules").isArray))
    "configuration_arrays_required"
  validateEntryArray (document.member "rules").asArray MAX_RULES
  validateEntryArray (document.member "schedules").asArray MAX_SCHEDULES

/-- A text that is not empty and not too long. -/
def sizeInvalid (raw : String) : Bool := raw.length == 0 || MAX_CONFIG_JSON_BYTES < raw.length

/-- A stored text: its document and its revision. -/
def parseStored (lib : JsonLibrary α) (raw : String) : Except String (Json α × ℕ) := do
  refuseIf (sizeInvalid raw) "configuration_size_invalid"
  let document ← orRefuse (lib.deserializeJson JSON_CAPACITY raw) "configuration_json_invalid"
  validateDocument document true
  return (document, (document.member "revision").asUInt 32)

/-- The text that is stored for a candidate: its document under the revision
of the device. -/
def canonicalizeCandidate (lib : JsonLibrary α) (raw : String) (revisionValue : ℕ) :
    Except String String := do
  refuseIf (sizeInvalid raw) "configuration_size_invalid"
  let document ← orRefuse (lib.deserializeJson JSON_CAPACITY raw) "configuration_json_invalid"
  validateDocument document false
  let document := lib.setMember JSON_CAPACITY document "schema" (.int SCHEMA_VERSION)
  let document := lib.setMember JSON_CAPACITY document "revision" (.int revisionValue)
  let canonical := lib.serializeJson document
  refuseIf (sizeInvalid canonical) "configuration_size_invalid"
  return canonical

/-- The text of the stored document under a new revision, as a rollback writes it. -/
def rollbackText (lib : JsonLibrary α) (previousRaw : String) (revisionValue : ℕ) :
    Except String String := do
  let document ←
    orRefuse (lib.deserializeJson JSON_CAPACITY previousRaw) "configuration_previous_invalid"
  validateDocument document true
  let document := lib.setMember JSON_CAPACITY document "revision" (.int revisionValue)
  let rollbackRaw := lib.serializeJson document
  refuseIf (sizeInvalid rollbackRaw) "configuration_size_invalid"
  return rollbackRaw

/-- The document of a store that has none: revision zero, no entries. -/
def defaultConfiguration (lib : JsonLibrary α) : String :=
  let set (document : Json α) (member : String × Json α) : Json α :=
    lib.setMember DEFAULT_CAPACITY document member.1 member.2
  lib.serializeJson <| [("schema", .int SCHEMA_VERSION), ("revision", .int 0), ("rules", .arr []),
    ("schedules", .arr [])].foldl set .null

/-- Everything in a document apart from its revision. -/
def payload : Json α → List (String × Json α)
  | .obj members => members.filter fun member => member.1 != "revision"
  | _ => []

/-- Replacing the revision touches no other member. -/
theorem filter_replace_revision (value : Json α) (members : List (String × Json α)) :
    ((members.map fun member =>
        if member.1 = "revision" then ("revision", value) else member).filter
      fun member => member.1 != "revision") =
      members.filter fun member => member.1 != "revision" := by
  induction members with
  | nil => rfl
  | cons member members ih =>
    rw [List.map_cons]
    by_cases hkey : member.1 = "revision"
    · rw [if_pos hkey, List.filter_cons_of_neg (by simp), List.filter_cons_of_neg (by simp [hkey]),
        ih]
    · rw [if_neg hkey, List.filter_cons_of_pos (by simp [hkey]),
        List.filter_cons_of_pos (by simp [hkey]), ih]

/-- A new revision leaves the rest of a document alone. -/
theorem payload_withMember (value document : Json α) :
    payload (document.withMember "revision" value) = payload document := by
  cases document with
  | obj members =>
    rw [Json.withMember]
    by_cases hmember : (members.lookup "revision").isSome = true
    · rw [if_pos hmember]
      exact filter_replace_revision value members
    · rw [if_neg hmember]
      simp [payload]
  | null => rfl
  | bool _ => rfl
  | int _ => rfl
  | float _ => rfl
  | str _ => rfl
  | arr _ => rfl

end ProjEsp32.ConfigurationDocument
