import ProjEsp32.FlatJson
import ProjEsp32.TransitionRuns
import ProjEsp32.UpdatePolicy

/-!
# Durability of the update policy

The policy in memory and its text in the preferences, over any order of boots,
requests and recorded results. A policy is read back from its text as it is
written, except for the channel: it is compared as a C string and read back as
one, and a request can bring a channel with a zero byte in it.
-/

namespace ProjEsp32.PolicyDurability

open ArduinoJson ArduinoText FirmwarePackageVerifier FlatJson TransitionRuns UpdatePolicy

variable {α : Type}

/-! ### The store -/

/-- The policy after a reset, before `begin` has run. -/
def boot (identity : FirmwareIdentity) (stored : String) : PolicyStore where
  policy := { channel := identity.CHANNEL }
  stored := stored

/-- An event of the policy store. -/
inductive Label where
  | begin (locked opens : Bool)
  /-- POST /api/update/policy. -/
  | post (locked putSucceeds : Bool) (form : PolicyForm)
  | recordResult (locked putSucceeds : Bool) (result : String)
  /-- A reset loses the memory, not the preferences. -/
  | reboot

/-- One event. -/
def step (lib : JsonLibrary α) (identity : FirmwareIdentity) (s : PolicyStore) :
    Label → PolicyStore
  | .begin locked opens => (UpdatePolicy.begin lib identity locked opens s).1
  | .post locked putSucceeds form => (postPolicy lib identity locked putSucceeds form s).1
  | .recordResult locked putSucceeds result =>
    (UpdatePolicy.recordResult lib locked putSucceeds result s).1
  | .reboot => boot identity s.stored

/-- A request or a recorded result that is answered with an error. -/
def Refused (lib : JsonLibrary α) (identity : FirmwareIdentity) (s : PolicyStore) : Label → Prop
  | .begin _ _ => False
  | .post locked putSucceeds form =>
    ∃ error, (postPolicy lib identity locked putSucceeds form s).2 = .error error
  | .recordResult locked putSucceeds result =>
    (UpdatePolicy.recordResult lib locked putSucceeds result s).2 = false
  | .reboot => False

/-- An event that accepts no update. -/
def Harmless (lib : JsonLibrary α) (identity : FirmwareIdentity) (s : PolicyStore) : Label → Prop
  | .begin _ _ => True
  | .reboot => True
  | label => Refused lib identity s label

/-- A request whose channel is the firmware's only up to a zero byte. -/
def Disguised (identity : FirmwareIdentity) : Label → Prop
  | .post _ _ form => ∃ channel ∈ form.channel,
    cString (trim channel) = identity.CHANNEL ∧ trim channel ≠ identity.CHANNEL
  | _ => False

instance Disguised.decidable (identity : FirmwareIdentity) : ∀ l, Decidable (Disguised identity l)
  | .begin _ _ => inferInstanceAs (Decidable False)
  | .post _ _ form => inferInstanceAs (Decidable (∃ channel ∈ form.channel,
      cString (trim channel) = identity.CHANNEL ∧ trim channel ≠ identity.CHANNEL))
  | .recordResult _ _ _ => inferInstanceAs (Decidable False)
  | .reboot => inferInstanceAs (Decidable False)

/-- The counters of a policy are 32-bit words. -/
structure Counted (p : PolicyData) : Prop where
  /-- The revision is one. -/
  revision : p.revision < 2^32
  /-- And so is the time of the last check. -/
  lastCheckEpoch : p.lastCheckEpoch < 2^32

/-- The channel of the firmware is a C string that leaves room for a policy. -/
structure Fits (channel : String) : Prop where
  /-- The channel has no zero byte. -/
  cString : cString channel = channel
  /-- It is short enough for a document. -/
  length : channel.length ≤ 98
  /-- And so is its text between quotes. -/
  printed : (printQuoted channel).length ≤ 410

/-- The policy that `begin` loads from a text. -/
def loadedPolicy (lib : JsonLibrary α) (identity : FirmwareIdentity) (stored : String) :
    PolicyData :=
  if stored.length = 0 then { channel := identity.CHANNEL }
  else
    match deserializePolicy lib identity stored with
    | none => { channel := identity.CHANNEL, lastResult := "policy_invalid_defaults" }
    | some loaded => loaded

/-- What every state of the store satisfies. -/
structure Durable (lib : JsonLibrary α) (identity : FirmwareIdentity) (s : PolicyStore) :
    Prop where
  /-- The policy in memory is valid. -/
  valid : validPolicy identity s.policy = true
  /-- A refusal leaves the memory and the preferences as they are. -/
  refused : ∀ l, Refused lib identity s l → step lib identity s l = s
  /-- The next boot loads the policy in memory. -/
  reloaded : s.policyReady = true →
    (run (step lib identity) s [.reboot, .begin true true]).policy = s.policy
  /-- It lasts, over any number of boots, until another one is accepted. -/
  lasting : ∀ later, Throughout (step lib identity) (Harmless lib identity) s later →
    s.policyReady = true → (run (step lib identity) s later).policyReady = true →
      (run (step lib identity) s later).policy = s.policy

/-! ### Texts of a policy -/

variable {lib : JsonLibrary α} {identity : FirmwareIdentity} {p : PolicyData} {s : PolicyStore}

/-- The members of the document of a policy. -/
def policyMembers (p : PolicyData) : Members :=
  [("schema", .nat p.schema), ("revision", .nat p.revision), ("enabled", .bool p.enabled),
    ("manifest_url", .str p.manifestUrl), ("channel", .str p.channel),
    ("interval_seconds", .nat p.intervalSeconds), ("last_check_epoch", .nat p.lastCheckEpoch),
    ("last_result", .str p.lastResult)]

/-- The keys of the policy's document, in order. -/
def POLICY_KEYS : List String :=
  ["schema", "revision", "enabled", "manifest_url", "channel", "interval_seconds",
    "last_check_epoch", "last_result"]

/-- No key is there twice. -/
theorem POLICY_KEYS_nodup : POLICY_KEYS.Nodup := by decide

/-- No key needs an escape. -/
theorem POLICY_KEYS_plain : ∀ key ∈ POLICY_KEYS, Plain key := by decide

/-- The members of a policy have these keys. -/
theorem policyMembers_keys (p : PolicyData) : (policyMembers p).map Prod.fst = POLICY_KEYS := rfl

/-- Eight slots and the three strings. -/
theorem poolSize_stored (p : PolicyData) :
    poolSize false (policyMembers p) =
      131 + p.manifestUrl.length + p.channel.length + p.lastResult.length := by
  simp [poolSize, policyMembers, SLOT_SIZE, Scalar.poolSize]
  omega

/-- A loaded document has the keys as well. -/
theorem poolSize_loaded (p : PolicyData) :
    poolSize true (policyMembers p) =
      222 + p.manifestUrl.length + p.channel.length + p.lastResult.length := by
  have hkeys : (POLICY_KEYS.map fun key => key.length + 1).sum = 91 := by decide
  rw [poolSize_true, poolSize_stored, policyMembers_keys, hkeys]
  omega

/-- A valid policy whose channel is the firmware's, byte for byte. -/
structure Loadable (identity : FirmwareIdentity) (p : PolicyData) : Prop where
  /-- The policy is valid. -/
  valid : validPolicy identity p = true
  /-- Its counters are words. -/
  counted : Counted p
  /-- Its channel is the firmware's. -/
  channel : p.channel = identity.CHANNEL

/-- A policy is stored member by member. -/
theorem serializePolicy_eq (hlib : Keeps lib) (hrange : InRange (policyMembers p))
    (hpool : poolSize false (policyMembers p) ≤ POLICY_DOCUMENT_CAPACITY) :
    serializePolicy lib p = print (policyMembers p) := by
  have hstored := foldl_setMember hlib (policyMembers_keys p ▸ POLICY_KEYS_nodup) hpool
  have hprinted := hlib.serializeJson (policyMembers p) hrange
  rw [← hprinted]
  exact congrArg lib.serializeJson hstored

/-- What a valid policy satisfies. -/
structure Valid (identity : FirmwareIdentity) (p : PolicyData) : Prop where
  /-- The schema is the one that is known. -/
  schema : p.schema = 1
  /-- The channel is the firmware's, up to a zero byte. -/
  channel : cString p.channel = identity.CHANNEL
  /-- The interval is not too long. -/
  intervalSeconds : p.intervalSeconds ≤ MAX_INTERVAL_SECONDS
  /-- The URL is valid, or there is none. -/
  manifestUrl : validManifestUrl p.manifestUrl = true
  /-- The last result is a short text. -/
  lastResult : validResult p.lastResult = true

/-- A policy that passes the check is valid. -/
theorem valid_of_validPolicy (h : validPolicy identity p = true) : Valid identity p := by
  unfold validPolicy at h
  simp only [Bool.and_eq_true, beq_iff_eq, decide_eq_true_eq] at h
  obtain ⟨⟨⟨⟨⟨⟨hschema, hchannel⟩, -⟩, hinterval⟩, hurl⟩, -⟩, hresult⟩ := h
  exact ⟨hschema, hchannel, hinterval, hurl, hresult⟩

/-- A text without blanks, quotes and backslashes is printed as it is, and C code
sees all of it. -/
theorem plain_of_blank_lt {text : String}
    (h : ∀ c ∈ text.toList, 0x20 < c.toNat ∧ c ≠ '"' ∧ c ≠ '\\') :
    Plain text ∧ cString text = text := by
  constructor
  · intro c hc
    obtain ⟨hblank, hquote, hbackslash⟩ := h c hc
    exact escapeChar_of_blank_lt hblank hquote hbackslash
  · apply cString_eq_self
    rintro c hc rfl
    exact absurd (h _ hc).1 (by decide)

/-- A valid manifest URL is plain and holds no zero byte. -/
theorem manifestUrl_plain {url : String} (h : validManifestUrl url = true) :
    Plain url ∧ cString url = url := by
  unfold validManifestUrl at h
  apply plain_of_blank_lt
  intro c hc
  split at h
  · rename_i hempty
    rw [← String.length_toList] at hempty
    rw [List.length_eq_zero_iff.mp hempty] at hc
    cases hc
  split at h
  · cases h
  split at h
  · cases h
  · have hchar := List.all_eq_true.mp h c hc
    simp only [Bool.and_eq_true, decide_eq_true_eq, bne_iff_ne] at hchar
    obtain ⟨⟨⟨hblank, -⟩, hquote⟩, hbackslash⟩ := hchar
    exact ⟨hblank, hquote, hbackslash⟩

/-- A valid manifest URL has at most 384 characters. -/
theorem manifestUrl_length {url : String} (h : validManifestUrl url = true) :
    url.length ≤ 384 := by
  unfold validManifestUrl at h
  split at h
  · omega
  split at h
  · cases h
  · rename_i hlength
    simp only [Bool.or_eq_true, decide_eq_true_eq, not_or] at hlength
    omega

/-- A token has letters, digits and four more characters. -/
theorem lastResult_plain {value : String} (h : validResult value = true) :
    Plain value ∧ cString value = value := by
  unfold validResult at h
  simp only [Bool.and_eq_true] at h
  apply plain_of_blank_lt
  intro c hc
  have hchar := List.all_eq_true.mp h.2 c hc
  have hcode : 0x20 < c.toNat ∧ c.toNat ≠ '"'.toNat ∧ c.toNat ≠ '\\'.toNat := by
    have hrange : ∀ first last : Char, first ≤ c ∧ c ≤ last →
        first.toNat ≤ c.toNat ∧ c.toNat ≤ last.toNat := fun _ _ h => h
    simp only [isalnum, Bool.or_eq_true, Bool.and_eq_true, decide_eq_true_eq, beq_iff_eq] at hchar
    rcases hchar with (((((hdigit | hlower) | hupper) | rfl) | rfl) | rfl) | rfl
    · have hcodes := hrange _ _ hdigit
      simp only [Char.reduceToNat] at hcodes ⊢
      omega
    · have hcodes := hrange _ _ hlower
      simp only [Char.reduceToNat] at hcodes ⊢
      omega
    · have hcodes := hrange _ _ hupper
      simp only [Char.reduceToNat] at hcodes ⊢
      omega
    all_goals decide
  refine ⟨hcode.1, ?_, ?_⟩
  · rintro rfl
    exact hcode.2.1 rfl
  · rintro rfl
    exact hcode.2.2 rfl

/-- A valid result has at most 64 characters. -/
theorem lastResult_length {value : String} (h : validResult value = true) :
    value.length ≤ 64 := by
  unfold validResult at h
  simp only [Bool.and_eq_true, decide_eq_true_eq] at h
  exact h.1.2

/-! ### The round trip -/

/-- The numbers of a valid policy have 32 bits. -/
theorem policyMembers_inRange (hvalid : Valid identity p) (hcounted : Counted p) :
    InRange (policyMembers p) := by
  have hschema := hvalid.schema
  have hinterval := hvalid.intervalSeconds
  have hrevision := hcounted.revision
  have hepoch := hcounted.lastCheckEpoch
  unfold MAX_INTERVAL_SECONDS at hinterval
  intro key value hmember
  simp only [policyMembers, List.mem_cons, Prod.mk.injEq, Scalar.nat.injEq, reduceCtorEq,
    List.not_mem_nil, and_false, or_false, false_or] at hmember
  omega

/-- A valid policy of the firmware's channel fits the document, stored or loaded. -/
theorem poolSize_le (hfits : Fits identity.CHANNEL) (hp : Loadable identity p)
    (copiesKeys : Bool) :
    poolSize copiesKeys (policyMembers p) ≤ POLICY_DOCUMENT_CAPACITY := by
  have hvalid := valid_of_validPolicy hp.valid
  have hurl := manifestUrl_length hvalid.manifestUrl
  have hresult := lastResult_length hvalid.lastResult
  have hlength := hfits.length
  rw [← hp.channel] at hlength
  unfold POLICY_DOCUMENT_CAPACITY
  cases copiesKeys with
  | false =>
    rw [poolSize_stored]
    omega
  | true =>
    rw [poolSize_loaded]
    omega

/-- Its text fits as well. -/
theorem length_print_le (hfits : Fits identity.CHANNEL) (hp : Loadable identity p) :
    (print (policyMembers p)).length ≤ MAX_POLICY_JSON_BYTES := by
  have hvalid := valid_of_validPolicy hp.valid
  have hkeys := POLICY_KEYS_plain
  have hnames : (POLICY_KEYS.map fun key => key.length + 4).sum = 115 := by decide
  have hrange := policyMembers_inRange hvalid hp.counted
  have hdigits : ∀ key value, (key, Scalar.nat value) ∈ policyMembers p →
      (Nat.toDigits 10 value).length ≤ 10 := fun key value hmember =>
    length_toDigits_le (hrange key value hmember)
  have hschema := hdigits "schema" p.schema (by simp [policyMembers])
  have hrevision := hdigits "revision" p.revision (by simp [policyMembers])
  have hinterval := hdigits "interval_seconds" p.intervalSeconds (by simp [policyMembers])
  have hepoch := hdigits "last_check_epoch" p.lastCheckEpoch (by simp [policyMembers])
  have henabled : (Scalar.bool p.enabled).print.length ≤ 5 := by
    cases p.enabled <;> decide
  have hurl := (manifestUrl_plain hvalid.manifestUrl).1.length
  have hurlLength := manifestUrl_length hvalid.manifestUrl
  have hresult := (lastResult_plain hvalid.lastResult).1.length
  have hresultLength := lastResult_length hvalid.lastResult
  have hprinted := hfits.printed
  rw [← hp.channel] at hprinted
  rw [length_print (by simp [policyMembers]) (policyMembers_keys p ▸ hkeys), policyMembers_keys,
    hnames]
  simp only [policyMembers, List.map_cons, List.map_nil, List.sum_cons, List.sum_nil]
  simp only [Scalar.print, List.length_cons] at henabled ⊢
  unfold MAX_POLICY_JSON_BYTES
  omega

/-- A loaded document holds the policy that was stored. -/
theorem deserializePolicy_print (hlib : Keeps lib) (hfits : Fits identity.CHANNEL)
    (hp : Loadable identity p) :
    deserializePolicy lib identity (print (policyMembers p)) = some p := by
  have hvalid := valid_of_validPolicy hp.valid
  have hrange := policyMembers_inRange hvalid hp.counted
  have hloaded := hlib.deserializeJson POLICY_DOCUMENT_CAPACITY (policyMembers p)
    (policyMembers_keys p ▸ POLICY_KEYS_nodup) hrange (poolSize_le hfits hp true)
  have hlength := length_print_le hfits hp
  have hsome : (print (policyMembers p)).length ≠ 0 := by
    rw [print, String.length_ofList]
    exact Nat.succ_ne_zero _
  have hschema := hrange "schema" p.schema (by simp [policyMembers])
  have hrevision := hrange "revision" p.revision (by simp [policyMembers])
  have hinterval := hrange "interval_seconds" p.intervalSeconds (by simp [policyMembers])
  have hepoch := hrange "last_check_epoch" p.lastCheckEpoch (by simp [policyMembers])
  have hfields : policyFields (object (policyMembers p) : Json α) = true := by
    simp [policyFields, object, policyMembers, Json.member, Scalar.json, Json.isBool, Json.isCStr,
      List.lookup_cons, Json.isUInt_of_lt hschema, Json.isUInt_of_lt hrevision,
      Json.isUInt_of_lt hinterval, Json.isUInt_of_lt hepoch]
  have hsame : ∀ output : PolicyData, output = p →
      (if validPolicy identity output = true then some output else none) = some p := by
    rintro output rfl
    rw [if_pos hp.valid]
  have hurl := (manifestUrl_plain hvalid.manifestUrl).2
  have hcstring : cString p.channel = p.channel := by
    rw [hp.channel]
    exact hfits.cString
  have hresult := (lastResult_plain hvalid.lastResult).2
  unfold deserializePolicy
  rw [if_neg (by simp [hsome, hlength]), hloaded]
  dsimp only
  rw [hfields, if_neg (by decide)]
  apply hsame
  simp [object, policyMembers, Json.member, Scalar.json, Json.orBool, Json.orCStr, List.lookup_cons,
    Json.asUInt_of_lt hschema, Json.asUInt_of_lt hrevision, Json.asUInt_of_lt hinterval,
    Json.asUInt_of_lt hepoch, hurl, hcstring, hresult]

/-- A loaded policy is valid, and its channel is a C string. -/
theorem deserializePolicy_some {raw : String} (h : deserializePolicy lib identity raw = some p) :
    Loadable identity p := by
  unfold deserializePolicy at h
  split at h
  · cases h
  cases hdocument : lib.deserializeJson POLICY_DOCUMENT_CAPACITY raw with
  | none =>
    rw [hdocument] at h
    cases h
  | some document =>
    rw [hdocument] at h
    dsimp only at h
    split at h
    · cases h
    split at h
    · rename_i hvalid
      cases h
      have hchannel := (valid_of_validPolicy hvalid).channel
      rw [Json.cString_orCStr] at hchannel
      exact ⟨hvalid, ⟨Json.asUInt_lt 32 _, Json.asUInt_lt 32 _⟩, hchannel⟩
    · cases h

/-- A valid policy is read back from its text exactly when its channel is the
firmware's, byte for byte. -/
theorem deserializePolicy_serializePolicy (hlib : Keeps lib) (hfits : Fits identity.CHANNEL)
    (hvalid : validPolicy identity p = true) (hcounted : Counted p) :
    deserializePolicy lib identity (serializePolicy lib p) = some p ↔
      p.channel = identity.CHANNEL := by
  constructor
  · intro h
    exact (deserializePolicy_some h).channel
  · intro hchannel
    have hp : Loadable identity p := ⟨hvalid, hcounted, hchannel⟩
    have hrange := policyMembers_inRange (valid_of_validPolicy hvalid) hcounted
    rw [serializePolicy_eq hlib hrange (poolSize_le hfits hp false)]
    exact deserializePolicy_print hlib hfits hp

/-! ### What a boot loads -/

/-- The default policies. -/
theorem default_loadable (hfits : Fits identity.CHANNEL) {result : String}
    (hresult : validResult result = true) :
    Loadable identity { channel := identity.CHANNEL, lastResult := result } where
  valid := by
    simp [validPolicy, hfits.cString, hresult, validManifestUrl, MIN_INTERVAL_SECONDS,
      MAX_INTERVAL_SECONDS]
  counted := ⟨Nat.two_pow_pos 32, Nat.two_pow_pos 32⟩
  channel := rfl

/-- What the start of the store does, branch by branch. -/
theorem begin_eq (lib : JsonLibrary α) (identity : FirmwareIdentity) (locked opens : Bool)
    (s : PolicyStore) :
    (UpdatePolicy.begin lib identity locked opens s).1 =
      if !locked then s
      else if !opens then { s with policyReady := false }
      else { s with policy := loadedPolicy lib identity s.stored, policyReady := true } := by
  unfold UpdatePolicy.begin loadedPolicy
  split
  · rfl
  split
  · rfl
  split
  · rfl
  cases deserializePolicy lib identity s.stored <;> rfl

/-- A reset and a boot end with the policy that the preferences describe. -/
theorem rebooted (s : PolicyStore) :
    (run (step lib identity) s [.reboot, .begin true true]).policy =
      loadedPolicy lib identity s.stored := by
  have hbegin := begin_eq lib identity true true (boot identity s.stored)
  simp only [run_cons, run_nil, step, hbegin]
  rfl

/-- Whatever the preferences hold, the loaded policy is a good one. -/
theorem loadedPolicy_loadable (lib : JsonLibrary α) (hfits : Fits identity.CHANNEL)
    (stored : String) : Loadable identity (loadedPolicy lib identity stored) := by
  unfold loadedPolicy
  split
  · exact default_loadable hfits (by decide)
  cases hloaded : deserializePolicy lib identity stored with
  | none => exact default_loadable hfits (by decide)
  | some loaded => exact deserializePolicy_some hloaded

/-- The text of a policy of the firmware's channel is loaded as that policy. -/
theorem loadedPolicy_serializePolicy (hlib : Keeps lib) (hfits : Fits identity.CHANNEL)
    (hp : Loadable identity p) : loadedPolicy lib identity (serializePolicy lib p) = p := by
  have hloaded :=
    (deserializePolicy_serializePolicy hlib hfits hp.valid hp.counted).mpr hp.channel
  have hsome : (serializePolicy lib p).length ≠ 0 := by
    intro hempty
    rw [deserializePolicy, if_pos (by simp [hempty])] at hloaded
    cases hloaded
  rw [loadedPolicy, if_neg hsome, hloaded]

/-! ### Updates -/

/-- The policy that a request asks for. -/
def requested (identity : FirmwareIdentity) (form : PolicyForm) (enabled : Bool)
    (manifestUrl intervalText : String) (p : PolicyData) : PolicyData :=
  { p with
    revision := (p.revision + 1) % 2^32
    enabled
    manifestUrl := trim manifestUrl
    channel := (form.channel.map trim).getD identity.CHANNEL
    intervalSeconds := toUInt32 (toInt intervalText)
    lastResult := "policy_updated" }

/-- The policy is in memory and in the preferences. -/
def accept (lib : JsonLibrary α) (candidate : PolicyData) (s : PolicyStore) : PolicyStore :=
  { s with stored := serializePolicy lib candidate, policy := candidate }

/-- An accepted candidate becomes the policy. -/
@[simp] theorem accept_policy (candidate : PolicyData) (s : PolicyStore) :
    (accept lib candidate s).policy = candidate := rfl

/-- An accepted candidate is stored in its text. -/
@[simp] theorem accept_stored (candidate : PolicyData) (s : PolicyStore) :
    (accept lib candidate s).stored = serializePolicy lib candidate := rfl

/-- Accepting leaves whether the store is ready. -/
@[simp] theorem accept_policyReady (candidate : PolicyData) (s : PolicyStore) :
    (accept lib candidate s).policyReady = s.policyReady := rfl

/-- A candidate is refused without a change, or it is accepted. -/
theorem persistLocked_cases (lib : JsonLibrary α) (putSucceeds : Bool) (candidate : PolicyData)
    (s : PolicyStore) :
    persistLocked lib putSucceeds candidate s = (s, false) ∨
      persistLocked lib putSucceeds candidate s = (accept lib candidate s, true) := by
  unfold persistLocked
  dsimp only
  split
  · exact .inl rfl
  split
  · exact .inl rfl
  · exact .inr rfl

/-- A request changes nothing, or its policy has passed the check and is accepted. -/
theorem postPolicy_cases (lib : JsonLibrary α) (identity : FirmwareIdentity)
    (locked putSucceeds : Bool) (form : PolicyForm) (s : PolicyStore) :
    (∃ error, postPolicy lib identity locked putSucceeds form s = (s, .error error)) ∨
      ∃ enabled manifestUrl intervalText,
        let candidate := requested identity form enabled manifestUrl intervalText s.policy
        validPolicy identity candidate = true ∧
          postPolicy lib identity locked putSucceeds form s = (accept lib candidate s, .ok ()) := by
  unfold postPolicy
  split
  · rename_i enabledText manifestUrl intervalText _ _ _
    cases henabled : parseEnabled enabledText with
    | none => exact .inl ⟨_, rfl⟩
    | some enabled =>
      dsimp only
      split
      · exact .inl ⟨_, rfl⟩
      split
      · exact .inl ⟨_, rfl⟩
      rename_i hvalid
      rw [Bool.not_eq_true', Bool.not_eq_false] at hvalid
      rcases persistLocked_cases lib putSucceeds
          (requested identity form enabled manifestUrl intervalText s.policy) s with hput | hput
      · refine .inl ⟨(500, "update_policy_persist_failed"), ?_⟩
        unfold requested at hput
        rw [hput]
      · refine .inr ⟨enabled, manifestUrl, intervalText, hvalid, ?_⟩
        unfold requested at hput
        rw [hput]
        rfl
  · exact .inl ⟨_, rfl⟩

/-- A complete request whose policy passes the check is accepted when it is written. -/
theorem postPolicy_of_valid {form : PolicyForm} {enabledText manifestUrl intervalText : String}
    {enabled : Bool} (henabledText : form.enabled = some enabledText)
    (hmanifestUrl : form.manifestUrl = some manifestUrl)
    (hintervalText : form.intervalSeconds = some intervalText)
    (henabled : parseEnabled enabledText = some enabled) (hready : s.policyReady = true)
    (hvalid : validPolicy identity
      (requested identity form enabled manifestUrl intervalText s.policy) = true)
    (hput : persistLocked lib true
      (requested identity form enabled manifestUrl intervalText s.policy) s =
        (accept lib (requested identity form enabled manifestUrl intervalText s.policy) s, true)) :
    postPolicy lib identity true true form s =
      (accept lib (requested identity form enabled manifestUrl intervalText s.policy) s,
        .ok ()) := by
  unfold postPolicy
  rw [henabledText, hmanifestUrl, hintervalText]
  dsimp only
  rw [henabled]
  dsimp only
  unfold requested at hvalid hput ⊢
  rw [if_neg (by simp [hready]), if_neg (by rw [hvalid]; decide), hput]

/-- A recorded result changes nothing, or it is a token and is accepted. -/
theorem recordResult_cases (lib : JsonLibrary α) (locked putSucceeds : Bool) (result : String)
    (s : PolicyStore) :
    recordResult lib locked putSucceeds result s = (s, false) ∨
      validResult result = true ∧ recordResult lib locked putSucceeds result s =
        (accept lib { s.policy with lastResult := result } s, true) := by
  unfold recordResult
  split
  · exact .inl rfl
  split
  · exact .inl rfl
  rename_i hresult _
  rw [Bool.not_eq_true', Bool.not_eq_false] at hresult
  rcases persistLocked_cases lib putSucceeds { s.policy with lastResult := result } s with
    hput | hput
  · exact .inl hput
  · exact .inr ⟨hresult, hput⟩

/-- A step whose post succeeds leads where the post does. -/
theorem step_of_accepted {locked putSucceeds : Bool} {form : PolicyForm} {t : PolicyStore}
    (h : postPolicy lib identity locked putSucceeds form s = (t, .ok ())) :
    step lib identity s (.post locked putSucceeds form) = t := by
  rw [step, h]

/-- A requested channel that passes the check is the firmware's, unless it is
disguised. -/
theorem requested_loadable {locked putSucceeds : Bool} {form : PolicyForm} {enabled : Bool}
    {manifestUrl intervalText : String} (hp : Counted p)
    (hvalid : validPolicy identity
      (requested identity form enabled manifestUrl intervalText p) = true)
    (hopen : ¬Disguised identity (.post locked putSucceeds form)) :
    Loadable identity (requested identity form enabled manifestUrl intervalText p) := by
  refine ⟨hvalid, ⟨Nat.mod_lt _ (Nat.two_pow_pos 32), hp.lastCheckEpoch⟩, ?_⟩
  have hchannel := (valid_of_validPolicy hvalid).channel
  unfold requested at hchannel ⊢
  dsimp only at hchannel ⊢
  cases hform : form.channel with
  | none => rfl
  | some channel =>
    rw [hform] at hchannel
    by_contra hne
    exact hopen ⟨channel, hform, hchannel, hne⟩

/-- A token in the place of the last result keeps a policy good. -/
theorem recorded_loadable (hp : Loadable identity p) {result : String}
    (hresult : validResult result = true) :
    Loadable identity { p with lastResult := result } := by
  refine ⟨?_, ⟨hp.counted.revision, hp.counted.lastCheckEpoch⟩, hp.channel⟩
  have hvalid := hp.valid
  unfold validPolicy at hvalid ⊢
  simp only [Bool.and_eq_true] at hvalid ⊢
  exact ⟨hvalid.1, hresult⟩

/-! ### Runs -/

/-- The policy in memory is a good one, and once it has been loaded the preferences
describe it. -/
structure InUse (lib : JsonLibrary α) (identity : FirmwareIdentity) (s : PolicyStore) : Prop where
  /-- The policy in memory can be loaded. -/
  loadable : Loadable identity s.policy
  /-- Once it has been loaded, the preferences describe it. -/
  loaded : s.policyReady = true → loadedPolicy lib identity s.stored = s.policy

/-- The store is in use from the boot. -/
theorem boot_inUse (hfits : Fits identity.CHANNEL) (stored : String) :
    InUse lib identity (boot identity stored) where
  loadable := default_loadable hfits (by decide)
  loaded := fun h => nomatch h

/-- Accepting a loadable candidate keeps the store in use. -/
theorem accept_inUse (hlib : Keeps lib) (hfits : Fits identity.CHANNEL) (s : PolicyStore)
    (hp : Loadable identity p) : InUse lib identity (accept lib p s) where
  loadable := hp
  loaded := fun _ => loadedPolicy_serializePolicy hlib hfits hp

/-- A refusal leaves everything as it is. -/
theorem step_of_refused {l : Label} (hl : Refused lib identity s l) :
    step lib identity s l = s := by
  cases l with
  | begin locked opens => cases hl
  | post locked putSucceeds form =>
    obtain ⟨error, herror⟩ := hl
    rcases postPolicy_cases lib identity locked putSucceeds form s with
      ⟨_, hrefused⟩ | ⟨_, _, _, -, haccepted⟩
    · exact congrArg Prod.fst hrefused
    · rw [haccepted] at herror
      cases herror
  | recordResult locked putSucceeds result =>
    rcases recordResult_cases lib locked putSucceeds result s with hrefused | ⟨-, haccepted⟩
    · exact congrArg Prod.fst hrefused
    · have hflag : (recordResult lib locked putSucceeds result s).2 = false := hl
      rw [haccepted] at hflag
      cases hflag
  | reboot => cases hl

/-- The step lemma. -/
theorem step_inUse (hlib : Keeps lib) (hfits : Fits identity.CHANNEL) (hs : InUse lib identity s)
    (l : Label) (hopen : ¬Disguised identity l) : InUse lib identity (step lib identity s l) := by
  cases l with
  | begin locked opens =>
    unfold step
    dsimp only
    rw [begin_eq]
    split
    · exact hs
    split
    · exact ⟨hs.loadable, fun h => nomatch h⟩
    · exact ⟨loadedPolicy_loadable lib hfits s.stored, fun _ => rfl⟩
  | post locked putSucceeds form =>
    unfold step
    dsimp only
    rcases postPolicy_cases lib identity locked putSucceeds form s with
      ⟨_, hrefused⟩ | ⟨_, _, _, hvalid, haccepted⟩
    · rw [hrefused]
      exact hs
    · rw [haccepted]
      exact accept_inUse hlib hfits s (requested_loadable hs.loadable.counted hvalid hopen)
  | recordResult locked putSucceeds result =>
    unfold step
    dsimp only
    rcases recordResult_cases lib locked putSucceeds result s with
      hrefused | ⟨hresult, haccepted⟩
    · rw [hrefused]
      exact hs
    · rw [haccepted]
      exact accept_inUse hlib hfits s (recorded_loadable hs.loadable hresult)
  | reboot => exact boot_inUse hfits s.stored

/-- An event that accepts no update leaves the preferences as they are. -/
theorem step_harmless (hlib : Keeps lib) (hfits : Fits identity.CHANNEL)
    (hs : InUse lib identity s) (l : Label) (hl : Harmless lib identity s l) :
    InUse lib identity (step lib identity s l) ∧ (step lib identity s l).stored = s.stored := by
  have hrefused : Refused lib identity s l →
      InUse lib identity (step lib identity s l) ∧ (step lib identity s l).stored = s.stored := by
    intro h
    rw [step_of_refused h]
    exact ⟨hs, rfl⟩
  cases l with
  | begin locked opens =>
    refine ⟨step_inUse hlib hfits hs (.begin locked opens) (fun h => h), ?_⟩
    unfold step
    dsimp only
    rw [begin_eq]
    split
    · rfl
    split
    · rfl
    · rfl
  | post locked putSucceeds form => exact hrefused hl
  | recordResult locked putSucceeds result => exact hrefused hl
  | reboot => exact ⟨boot_inUse hfits s.stored, rfl⟩

/-- A store in use is durable. -/
theorem InUse.durable (hlib : Keeps lib) (hfits : Fits identity.CHANNEL)
    (hs : InUse lib identity s) : Durable lib identity s where
  valid := hs.loadable.valid
  refused := fun _ hl => step_of_refused hl
  reloaded := by
    intro hready
    rw [rebooted]
    exact hs.loaded hready
  lasting := by
    intro later hlater hready hafter
    have hkept := run_invariant_of_throughout
      (I := fun t => InUse lib identity t ∧ t.stored = s.stored)
      (fun t l ht hl => by
        obtain ⟨hnext, hstored⟩ := step_harmless hlib hfits ht.1 l hl
        exact ⟨hnext, hstored.trans ht.2⟩)
      ⟨hs, rfl⟩ hlater
    have hloaded := hkept.1.loaded hafter
    rw [hkept.2, hs.loaded hready] at hloaded
    exact hloaded.symm

/-- In every run whose requests bring no disguised channel, every state is durable,
and a policy is read back from its text exactly when its channel is the firmware's. -/
theorem policy_run {lib : JsonLibrary α} (hlib : Keeps lib) {identity : FirmwareIdentity}
    (hfits : Fits identity.CHANNEL) (stored : String) {labels : List Label}
    (hlabels : Throughout (step lib identity) (fun _ l => ¬Disguised identity l)
      (boot identity stored) labels) :
    Durable lib identity (run (step lib identity) (boot identity stored) labels) ∧
      ∀ p, validPolicy identity p = true → Counted p →
        (deserializePolicy lib identity (serializePolicy lib p) = some p ↔
          p.channel = identity.CHANNEL) := by
  refine ⟨?_, fun p => deserializePolicy_serializePolicy hlib hfits⟩
  have hinUse := run_invariant_of_throughout (I := InUse lib identity)
    (fun s l hs hopen => step_inUse hlib hfits hs l hopen) (boot_inUse hfits stored) hlabels
  exact hinUse.durable hlib hfits

/-- A disguised channel that is accepted does not survive the next boot. -/
theorem disguised_lost {locked putSucceeds : Bool} {form : PolicyForm}
    (hfits : Fits identity.CHANNEL) (hform : Disguised identity (.post locked putSucceeds form))
    (haccepted : (postPolicy lib identity locked putSucceeds form s).2 = .ok ()) :
    let t := step lib identity s (.post locked putSucceeds form)
    (run (step lib identity) t [.reboot, .begin true true]).policy ≠ t.policy := by
  intro t heq
  rw [rebooted] at heq
  have hloaded := (loadedPolicy_loadable lib hfits t.stored).channel
  rw [heq] at hloaded
  obtain ⟨channel, hchannel, -, hne⟩ := hform
  rcases postPolicy_cases lib identity locked putSucceeds form s with
    ⟨_, hrefused⟩ | ⟨_, _, _, -, hpost⟩
  · rw [hrefused] at haccepted
    cases haccepted
  · have ht : t.policy.channel = (form.channel.map trim).getD identity.CHANNEL := by
      change (postPolicy lib identity locked putSucceeds form s).1.policy.channel = _
      rw [hpost]
      rfl
    rw [ht, Option.mem_def.mp hchannel] at hloaded
    exact hne hloaded

/-! ### A channel with a zero byte -/

/-- The channel of the repository. -/
theorem dev_fits : Fits ({} : FirmwareIdentity).CHANNEL where
  cString := by decide
  length := by decide
  printed := by decide

/-- A form that enables the policy, with a channel or without. -/
def sampleForm (channel : Option String) : PolicyForm where
  enabled := some "1"
  manifestUrl := some "https://a.example/manifest.json"
  intervalSeconds := some "3600"
  channel := channel

/-- A library of flat objects. -/
def policyLibrary : JsonLibrary ℕ := flatLibrary

/-- A boot, an update, a record and a boot again. -/
theorem policy_sample :
    Durable policyLibrary {} (run (step policyLibrary {}) (boot {} "")
      [.begin true true, .post true true (sampleForm (some " dev ")),
        .recordResult true true "update_current", .reboot, .begin true true]) ∧
      ∀ p, validPolicy {} p = true → Counted p →
        (deserializePolicy policyLibrary {} (serializePolicy policyLibrary p) = some p ↔
          p.channel = "dev") :=
  policy_run flatLibrary_keeps dev_fits "" (by decide)

/-- The policy of a request whose channel goes on after a zero byte. -/
def disguisedPolicy : PolicyData :=
  requested {} (sampleForm (some "dev\x00")) true "https://a.example/manifest.json" "3600"
    (boot {} "").policy

/-- The disguised policy is valid. -/
theorem disguisedPolicy_valid : validPolicy {} disguisedPolicy = true := by decide

/-- Its text is short enough to be written. -/
theorem disguisedPolicy_length : (serializePolicy policyLibrary disguisedPolicy).length = 187 := by
  have hlib : Keeps policyLibrary := flatLibrary_keeps
  have hrange := policyMembers_inRange (valid_of_validPolicy disguisedPolicy_valid)
    ⟨by decide, by decide⟩
  have hkeys := POLICY_KEYS_plain
  rw [serializePolicy_eq hlib hrange (by rw [poolSize_stored]; decide),
    length_print (by simp [policyMembers]) (policyMembers_keys _ ▸ hkeys), policyMembers_keys]
  decide

/-- The device accepts the request after `begin`. -/
theorem disguised_accepted :
    let begun := { boot {} "" with policyReady := true }
    postPolicy policyLibrary {} true true (sampleForm (some "dev\x00")) begun =
      (accept policyLibrary disguisedPolicy begun, .ok ()) := by
  intro begun
  have hput : persistLocked policyLibrary true disguisedPolicy begun =
      (accept policyLibrary disguisedPolicy begun, true) := by
    unfold persistLocked
    dsimp only
    rw [disguisedPolicy_length, if_neg (by decide), if_neg (by decide)]
    rfl
  exact postPolicy_of_valid rfl rfl rfl (by decide) rfl disguisedPolicy_valid hput

/-- The policy of that request is valid, in memory and in the preferences, and the
next boot loads another one. -/
theorem policy_disguised :
    ∃ s t, (s = run (step policyLibrary {}) (boot {} "")
        [.begin true true, .post true true (sampleForm (some "dev\x00"))] ∧
        t = run (step policyLibrary {}) s [.reboot, .begin true true]) ∧
      (s.policyReady = true ∧ validPolicy {} s.policy = true ∧
        s.stored = serializePolicy policyLibrary s.policy) ∧
      (s.policy.channel = "dev\x00" ∧ t.policy.channel = "dev" ∧ t.policy ≠ s.policy) ∧
      deserializePolicy policyLibrary {} (serializePolicy policyLibrary s.policy) ≠ some s.policy ∧
      ¬Durable policyLibrary {} s := by
  have hbegun : step policyLibrary {} (boot {} "") (.begin true true) =
      { boot {} "" with policyReady := true } := begin_eq policyLibrary {} true true (boot {} "")
  have hpost := step_of_accepted disguised_accepted
  have hrun : run (step policyLibrary {}) (boot {} "")
      [.begin true true, .post true true (sampleForm (some "dev\x00"))] =
        accept policyLibrary disguisedPolicy { boot {} "" with policyReady := true } := by
    rw [run_cons, run_cons, run_nil, hbegun, hpost]
  -- the state is kept closed: its text need not be computed
  obtain ⟨s, hs⟩ : ∃ s, s =
      accept policyLibrary disguisedPolicy { boot {} "" with policyReady := true } := ⟨_, rfl⟩
  have hready : s.policyReady = true := by rw [hs, accept_policyReady]
  have hpolicy : s.policy = disguisedPolicy := by rw [hs, accept_policy]
  have hstored : s.stored = serializePolicy policyLibrary s.policy := by
    rw [hpolicy, hs, accept_stored]
  have hvalid : validPolicy {} s.policy = true := by rw [hpolicy, disguisedPolicy_valid]
  have hchannel : s.policy.channel = "dev\x00" := by
    rw [hpolicy]
    decide
  have hloaded := (loadedPolicy_loadable policyLibrary dev_fits s.stored).channel
  rw [← rebooted] at hloaded
  have hne : (run (step policyLibrary {}) s [.reboot, .begin true true]).policy ≠ s.policy := by
    have hdisguised : Disguised {} (.post true true (sampleForm (some "dev\x00"))) :=
      ⟨"dev\x00", rfl, by decide, by decide⟩
    rw [hs, ← hpost]
    exact disguised_lost dev_fits hdisguised (congrArg Prod.snd disguised_accepted)
  refine ⟨s, _, ⟨hs.trans hrun.symm, rfl⟩, ⟨hready, hvalid, hstored⟩, ⟨hchannel, hloaded, hne⟩,
    ?_, ?_⟩
  · intro hread
    have hfirmware := (deserializePolicy_some hread).channel
    rw [hchannel] at hfirmware
    exact absurd hfirmware (by decide)
  · intro hdurable
    exact hne (hdurable.reloaded hready)

end ProjEsp32.PolicyDurability
