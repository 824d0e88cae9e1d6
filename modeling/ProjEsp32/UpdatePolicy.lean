import ProjEsp32.ArduinoJson
import ProjEsp32.CheckedResult
import ProjEsp32.FirmwarePackageVerifier

/-!
# The update policy

The persisted policy of automatic update checks: its validation, its JSON form
in the preferences, and the calls that read and replace it. Each call takes the
policy lock once; whether it gets it is an argument.
-/

namespace ProjEsp32.UpdatePolicy

open ArduinoText ArduinoJson CheckedResult FirmwarePackageVerifier

variable {α : Type}

/-- One policy. The channel of a fresh one is the firmware's. -/
structure PolicyData where
  /-- The version of the policy's own form. -/
  schema : ℕ := 1
  /-- How often it has been changed. -/
  revision : ℕ := 0
  /-- Checks are made without being asked for. -/
  enabled : Bool := false
  /-- Where the manifest is. -/
  manifestUrl : String := ""
  /-- The channel that it is for. -/
  channel : String
  /-- The time between two checks. -/
  intervalSeconds : ℕ := 21600
  /-- When the last check was made. -/
  lastCheckEpoch : ℕ := 0
  /-- What became of it. -/
  lastResult : String := "never"
  deriving DecidableEq

/-- The shortest interval between two checks. -/
def MIN_INTERVAL_SECONDS : ℕ := 60

/-- The longest interval, a week. -/
def MAX_INTERVAL_SECONDS : ℕ := 604800

/-- The greatest length of a stored policy. -/
def MAX_POLICY_JSON_BYTES : ℕ := 1024

/-- The capacity that a policy is read with. -/
def POLICY_DOCUMENT_CAPACITY : ℕ := 768

/-- An empty URL, or an HTTPS one without blanks, quotes and backslashes. -/
def validManifestUrl (url : String) : Bool :=
  if url.length = 0 then true
  else if url.length < 16 || 384 < url.length then false
  else if !startsWith url "https://" || !endsWith url "/manifest.json" then false
  else url.toList.all fun c => 0x20 < c.toNat && c.toNat != 0x7f && c != '"' && c != '\\'

/-- A short result token. -/
def validResult (value : String) : Bool :=
  value.length != 0 && value.length ≤ 64 &&
    value.toList.all fun c => isalnum c || c == '_' || c == '-' || c == '.' || c == ':'

/-- What every policy in use satisfies. The channel is compared as a C string. -/
def validPolicy (identity : FirmwareIdentity) (candidate : PolicyData) : Bool :=
  candidate.schema == 1 && cString candidate.channel == identity.CHANNEL &&
    MIN_INTERVAL_SECONDS ≤ candidate.intervalSeconds &&
    candidate.intervalSeconds ≤ MAX_INTERVAL_SECONDS && validManifestUrl candidate.manifestUrl &&
    !(candidate.enabled && candidate.manifestUrl.length == 0) && validResult candidate.lastResult

/-- The document of a policy, member by member. -/
def serializePolicy (lib : JsonLibrary α) (value : PolicyData) : String :=
  let set (document : Json α) (member : String × Json α) : Json α :=
    lib.setMember POLICY_DOCUMENT_CAPACITY document member.1 member.2
  lib.serializeJson <| [("schema", .int value.schema), ("revision", .int value.revision),
    ("enabled", .bool value.enabled), ("manifest_url", .str value.manifestUrl),
    ("channel", .str value.channel), ("interval_seconds", .int value.intervalSeconds),
    ("last_check_epoch", .int value.lastCheckEpoch),
    ("last_result", .str value.lastResult)].foldl set .null

/-- Every member of a stored policy, with its type. -/
def policyFields (document : Json α) : Bool :=
  (document.member "schema").isUInt 32 && (document.member "revision").isUInt 32 &&
    (document.member "enabled").isBool && (document.member "manifest_url").isCStr &&
    (document.member "channel").isCStr && (document.member "interval_seconds").isUInt 32 &&
    (document.member "last_check_epoch").isUInt 32 && (document.member "last_result").isCStr

/-- The policy that a stored text describes, if it is a valid one. -/
def deserializePolicy (lib : JsonLibrary α) (identity : FirmwareIdentity) (raw : String) :
    Option PolicyData :=
  if raw.length = 0 || MAX_POLICY_JSON_BYTES < raw.length then none
  else
    match lib.deserializeJson POLICY_DOCUMENT_CAPACITY raw with
    | none => none
    | some document =>
      if !policyFields document then none
      else
        let output : PolicyData :=
          { schema := (document.member "schema").asUInt 32
            revision := (document.member "revision").asUInt 32
            enabled := (document.member "enabled").orBool false
            manifestUrl := (document.member "manifest_url").orCStr ""
            channel := (document.member "channel").orCStr ""
            intervalSeconds := (document.member "interval_seconds").asUInt 32
            lastCheckEpoch := (document.member "last_check_epoch").asUInt 32
            lastResult := (document.member "last_result").orCStr "" }
        if validPolicy identity output then some output else none

/-- The policy in memory and the text in the preferences, empty if none. -/
structure PolicyStore where
  /-- The policy in memory. -/
  policy : PolicyData
  /-- It has been loaded. -/
  policyReady : Bool := false
  /-- Its text in the preferences. -/
  stored : String := ""
  deriving DecidableEq

/-- Write a policy and use it when it was written; a failed write leaves the
old text. -/
def persistLocked (lib : JsonLibrary α) (putSucceeds : Bool) (candidate : PolicyData)
    (s : PolicyStore) : PolicyStore × Bool :=
  let raw := serializePolicy lib candidate
  if raw.length = 0 || MAX_POLICY_JSON_BYTES < raw.length then (s, false)
  else if !putSucceeds then (s, false)
  else ({ s with stored := raw, policy := candidate }, true)

/-- The value of an `enabled` form field. -/
def parseEnabled (value : String) : Option Bool :=
  let value := cString (toLowerCase (trim value))
  if value = "1" || value = "true" || value = "on" then some true
  else if value = "0" || value = "false" || value = "off" then some false
  else none

/-- `begin`: the stored policy, or the default one. -/
def begin (lib : JsonLibrary α) (identity : FirmwareIdentity) (locked opens : Bool)
    (s : PolicyStore) : PolicyStore × Bool :=
  if !locked then (s, false)
  else if !opens then ({ s with policyReady := false }, false)
  else if s.stored.length = 0 then
    ({ s with policy := { channel := identity.CHANNEL }, policyReady := true }, true)
  else
    match deserializePolicy lib identity s.stored with
    | none =>
      ({ s with policy := { channel := identity.CHANNEL, lastResult := "policy_invalid_defaults" }
                policyReady := true }, true)
    | some loaded => ({ s with policy := loaded, policyReady := true }, true)

/-- What the scheduler needs to know of the policy. -/
structure CheckConfig where
  /-- Checks are made without being asked for. -/
  enabled : Bool
  /-- The URL to check. -/
  manifestUrl : String
  /-- The time between two checks. -/
  intervalSeconds : ℕ
  /-- The revision of the policy. -/
  revision : ℕ
  deriving DecidableEq

/-- `automaticCheckConfig`: the policy of automatic checks, when it can be read. -/
def automaticCheckConfig (locked : Bool) (s : PolicyStore) : Except String CheckConfig :=
  if !locked || !s.policyReady then .error "update_policy_not_ready"
  else if s.policy.enabled && s.policy.manifestUrl.length == 0 then
    .error "update_policy_manifest_url_missing"
  else .ok
    { enabled := s.policy.enabled, manifestUrl := s.policy.manifestUrl
      intervalSeconds := s.policy.intervalSeconds, revision := s.policy.revision }

/-- `configuredManifestUrl`: the URL of the policy, for a check that is asked for. -/
def configuredManifestUrl (locked : Bool) (s : PolicyStore) : Except String String :=
  if !locked || !s.policyReady then .error "update_policy_not_ready"
  else if s.policy.manifestUrl.length == 0 then .error "update_policy_manifest_url_missing"
  else .ok s.policy.manifestUrl

/-- `recordResult`: keep the result of a check with the policy. -/
def recordResult (lib : JsonLibrary α) (locked putSucceeds : Bool) (result : String)
    (s : PolicyStore) : PolicyStore × Bool :=
  if !validResult result then (s, false)
  else if !locked || !s.policyReady then (s, false)
  else persistLocked lib putSucceeds { s.policy with lastResult := result } s

/-- The fields of POST /api/update/policy. -/
structure PolicyForm where
  /-- The field `enabled`. -/
  enabled : Option String
  /-- The field of the URL. -/
  manifestUrl : Option String
  /-- The field of the interval. -/
  intervalSeconds : Option String
  /-- The field of the channel, which may be left out. -/
  channel : Option String := none

/-- POST /api/update/policy: the next revision, when it is valid and written.
A refusal carries its status code and error text. -/
def postPolicy (lib : JsonLibrary α) (identity : FirmwareIdentity) (locked putSucceeds : Bool)
    (form : PolicyForm) (s : PolicyStore) : PolicyStore × Except (ℕ × String) Unit :=
  match form.enabled, form.manifestUrl, form.intervalSeconds with
  | some enabledText, some manifestUrl, some intervalText =>
    match parseEnabled enabledText with
    | none => (s, .error (400, "policy_enabled_invalid"))
    | some enabled =>
      if !locked || !s.policyReady then (s, .error (503, "update_policy_not_ready"))
      else
        let candidate : PolicyData :=
          { s.policy with
            revision := (s.policy.revision + 1) % 2^32
            enabled
            manifestUrl := trim manifestUrl
            channel := (form.channel.map trim).getD identity.CHANNEL
            intervalSeconds := toUInt32 (toInt intervalText)
            lastResult := "policy_updated" }
        if !validPolicy identity candidate then (s, .error (400, "update_policy_invalid"))
        else
          match persistLocked lib putSucceeds candidate s with
          | (s, false) => (s, .error (500, "update_policy_persist_failed"))
          | (s, true) => (s, .ok ())
  | _, _, _ => (s, .error (400, "policy_fields_required"))

end ProjEsp32.UpdatePolicy
