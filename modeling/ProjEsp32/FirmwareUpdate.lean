import ProjEsp32.FirmwarePackageVerifier

/-!
# The firmware update service

The shared install engine behind the web upload and the remote transport. Each
entry point is a function on the service state; what the hash library, the
flash writer, the OTA layer and the clock answer during one call is the
`Platform` of that call. `Device` keeps a log of what the calls did to the
device, for specifications; no function of the service reads it, apart from
the restart that ends a boot.
-/

namespace ProjEsp32.FirmwareUpdate

open ArduinoJson FirmwarePackageVerifier

variable {α : Type}

/-- The update FSM. -/
inductive UpdateState where
  | idle
  | receiving
  | finalizing
  | pendingReboot
  | pendingVerify
  | valid
  | failed
  | rollback
  deriving DecidableEq

/-- A verdict on the running image that was handed to the bootloader. -/
inductive Verdict where
  /-- `esp_ota_mark_app_valid_cancel_rollback`. -/
  | markValid
  /-- `esp_ota_mark_app_invalid_rollback_and_reboot`. -/
  | markInvalid
  deriving DecidableEq

/-- What the calls of the service have done to the device since boot. -/
structure Device where
  /-- Successful calls of `Update.begin`. -/
  sessions : ℕ := 0
  /-- Bytes passed to `Update.write` since the last successful `Update.begin`. -/
  written : List UInt8 := []
  /-- Verdicts on the running image, oldest first. -/
  verdicts : List Verdict := []
  /-- The device has been restarted; this boot is over. -/
  restarted : Bool := false
  deriving DecidableEq

/-- The answers of the platform during one call. -/
structure Platform where
  /-- Milliseconds since boot; `millis()` is its low 32 bits. -/
  clock : ℕ := 0
  /-- Size of the next update partition, if there is one. -/
  nextUpdate : Option ℕ := some 0x1B0000
  /-- `mbedtls_sha256_starts_ret` returns zero. -/
  hashStarts : Bool := true
  /-- `mbedtls_sha256_update_ret` returns zero. -/
  hashUpdates : Bool := true
  /-- `mbedtls_sha256_finish_ret` returns zero. -/
  hashFinishes : Bool := true
  /-- `Update.begin` returns true. -/
  updateBegins : Bool := true
  /-- Bytes that `Update.write` reports, for the length it was given. -/
  updateWrites : ℕ → ℕ := id
  /-- `Update.end(true)` returns true. -/
  updateEnds : Bool := true
  /-- `Update.getError()`. -/
  updateError : ℕ := 0
  /-- The one-shot hash of the manifest succeeds. -/
  manifestHashes : Bool := true
  /-- `ESP.getFreeHeap()`. -/
  freeHeap : ℕ := 0
  /-- Result of marking the image valid; zero is ESP_OK. -/
  markValid : Int := 0
  /-- Marking the image invalid does reboot the device. -/
  rollbackReboots : Bool := true

/-- `millis()`, a 32-bit counter. -/
def Platform.millis (p : Platform) : ℕ := p.clock % 2^32

/-- The compile-time choices that the update code depends on. -/
structure BuildProfile where
  /-- Identity that packages are checked against. -/
  identity : FirmwareIdentity := {}
  /-- Controlled rollback image. -/
  FORCE_VALIDATION_FAILURE : Bool := false
  /-- Lab images that accept plain HTTP. -/
  ALLOW_HTTP : Bool := false

/-- Third-party code and build profile, fixed for a device. -/
structure Firmware (α : Type) where
  /-- The JSON library. -/
  json : JsonLibrary α
  /-- The cryptographic library. -/
  crypto : Crypto
  /-- How the firmware was built. -/
  profile : BuildProfile := {}

/-- The variables of the update service and the prepared package. -/
structure Updater where
  /-- The state of the update. -/
  updateState : UpdateState := .idle
  /-- Why the last one failed. -/
  lastError : String := ""
  /-- The bytes of the image so far. -/
  receivedBytes : ℕ := 0
  /-- When the state was entered. -/
  stateSinceMs : ℕ := 0
  /-- `Update.begin` has succeeded, and nothing has ended it. -/
  updateSessionOpen : Bool := false
  /-- The hash context is in use. -/
  uploadHashActive : Bool := false
  /-- Bytes that the hash context has absorbed since it was started. -/
  uploadHash : List UInt8 := []
  /-- The package that is prepared. -/
  preparedMetadata : Metadata := {}
  /-- What the update library and the boot partition have seen. -/
  device : Device := {}
  deriving DecidableEq

/-- Result of a fallible call: the new state and the error, if any. -/
abbrev Outcome := Updater × Except String Unit

/-- How long an accepted image waits for the reboot. -/
def REBOOT_DELAY_MS : ℕ := 750

/-- When a booted image may be found valid. -/
def VALIDATION_MIN_MS : ℕ := 10000

/-- When a booted image is rolled back. -/
def VALIDATION_TIMEOUT_MS : ℕ := 30000

/-- The free heap that a valid image leaves. -/
def MIN_HEAP_FOR_VALID_IMAGE : ℕ := 60000

/-- Enter a state and note the time. -/
def setState (p : Platform) (next : UpdateState) (s : Updater) : Updater :=
  { s with updateState := next, stateSinceMs := p.millis }

/-- Release the hash context if there is one. -/
def clearUploadHash (s : Updater) : Updater :=
  if s.uploadHashActive then { s with uploadHashActive := false } else s

/-- Start a fresh hash context. -/
def beginUploadHash (p : Platform) (s : Updater) : Updater × Bool :=
  let s := clearUploadHash s
  if p.hashStarts then ({ s with uploadHashActive := true, uploadHash := [] }, true)
  else (s, false)

/-- Absorb one chunk. -/
def updateUploadHash (p : Platform) (data : List UInt8) (s : Updater) :
    Updater × Bool :=
  if s.uploadHashActive && p.hashUpdates then
    ({ s with uploadHash := s.uploadHash ++ data }, true)
  else (s, false)

/-- The digest of what was absorbed; the context is released in either case. -/
def finishUploadHash (crypto : Crypto) (p : Platform) (s : Updater) :
    Updater × Option (List UInt8) :=
  if s.uploadHashActive then
    ({ s with uploadHashActive := false },
      if p.hashFinishes then some (crypto.sha256 s.uploadHash) else none)
  else (s, none)

/-- Abort an open session, release the hash and record the reason. -/
def failUpdate (p : Platform) (reason : String) (s : Updater) : Updater :=
  let s := if s.updateSessionOpen then { s with updateSessionOpen := false } else s
  setState p .failed { clearUploadHash s with lastError := reason }

/-- Fail the update and report the reason to the caller as well. -/
def failWith (p : Platform) (reason : String) (s : Updater) : Outcome :=
  (failUpdate p reason s, .error reason)

/-- States in which a new package may be prepared. -/
def canPreparePackage (s : Updater) : Bool :=
  s.updateState == .idle || s.updateState == .valid || s.updateState == .failed

/-- The package fits the next update partition. -/
def packageFits (p : Platform) (package : Metadata) : Bool :=
  match p.nextUpdate with
  | some size => package.size ≤ size
  | none => false

/-- `begin`: forget package, session and hash, then look at the running image. -/
def begin (p : Platform) (runningPendingVerify criticalStorageReady : Bool) (s : Updater) :
    Updater :=
  let s := clearUploadHash { s with preparedMetadata := clear }
  let s := { s with updateSessionOpen := false, receivedBytes := 0 }
  if runningPendingVerify then setState p .pendingVerify { s with lastError := "" }
  else
    setState p .idle
      { s with lastError := if criticalStorageReady then "" else "critical_storage_not_ready" }

/-- The service after a boot. -/
def boot (p : Platform) (runningPendingVerify criticalStorageReady : Bool) : Updater :=
  begin p runningPendingVerify criticalStorageReady {}

/-- Check a package and keep its metadata, in the states that allow it. -/
def preparePackage (fw : Firmware α) (p : Platform) (manifestJson signatureBase64 : String)
    (s : Updater) : Outcome :=
  if !canPreparePackage s then
    ({ s with lastError := "update_busy" }, .error "update_busy")
  else
    match prepare fw.json fw.crypto fw.profile.identity p.manifestHashes manifestJson
        signatureBase64 with
    | (metadata, .error error) =>
      ({ s with preparedMetadata := metadata, lastError := "package_prepare_" ++ error },
        .error error)
    | (metadata, .ok _) =>
      if !packageFits p metadata then
        ({ s with preparedMetadata := clear, lastError := "package_firmware_too_large" },
          .error "firmware_too_large")
      else ({ s with preparedMetadata := metadata, lastError := "" }, .ok ())

/-- Open an install session for the prepared package. The state is not tested. -/
def beginPreparedInstall (p : Platform) (s : Updater) : Outcome :=
  let s := { s with receivedBytes := 0, lastError := "" }
  if !s.preparedMetadata.valid then failWith p "signed_package_not_prepared" s
  else if !packageFits p s.preparedMetadata then failWith p "package_firmware_too_large" s
  else
    match beginUploadHash p s with
    | (s, false) => failWith p "firmware_hash_begin_failed" s
    | (s, true) =>
      let s := setState p .receiving s
      if !p.updateBegins then
        failWith p ("update_begin_failed_" ++ toString p.updateError) s
      else
        ({ s with updateSessionOpen := true
                  device := { s.device with sessions := s.device.sessions + 1, written := [] } },
          .ok ())

/-- Hash and write one chunk. The size test is 32-bit arithmetic. -/
def writePreparedChunk (p : Platform) (data : List UInt8) (s : Updater) : Outcome :=
  if s.updateState != .receiving then (s, .error "update_not_receiving")
  else if s.preparedMetadata.size < (s.receivedBytes + data.length) % 2^32 then
    failWith p "firmware_size_exceeded" s
  else if data.length = 0 then (s, .ok ())
  else
    match updateUploadHash p data s with
    | (s, false) => failWith p "firmware_hash_update_failed" s
    | (s, true) =>
      let s := { s with device := { s.device with written := s.device.written ++ data } }
      let written := p.updateWrites data.length
      if written != data.length then
        failWith p ("update_write_failed_" ++ toString p.updateError) s
      else ({ s with receivedBytes := (s.receivedBytes + written) % 2^32 }, .ok ())

/-- Compare size and digest with the manifest and select the new image. -/
def finishPreparedInstall (crypto : Crypto) (p : Platform) (s : Updater) : Outcome :=
  if s.updateState != .receiving then (s, .error "update_not_receiving")
  else
    let s := setState p .finalizing s
    if s.receivedBytes != s.preparedMetadata.size then failWith p "firmware_size_mismatch" s
    else
      match finishUploadHash crypto p s with
      | (s, none) => failWith p "firmware_hash_finish_failed" s
      | (s, some actualHash) =>
        if actualHash != s.preparedMetadata.sha256 then failWith p "firmware_sha256_mismatch" s
        else if !p.updateEnds then
          failWith p ("update_end_failed_" ++ toString p.updateError) s
        else
          (setState p .pendingReboot { s with updateSessionOpen := false, lastError := "" },
            .ok ())

/-- POST /api/update/prepare; a form without both fields only sets the error. -/
def postPrepare (fw : Firmware α) (p : Platform) (manifest signature : Option String)
    (s : Updater) : Updater :=
  match manifest, signature with
  | some manifest, some signature => (preparePackage fw p manifest signature s).1
  | _, _ => { s with lastError := "package_prepare_missing_fields" }

/-- One file callback of POST /api/update/upload. -/
def upload (crypto : Crypto) (p : Platform) (index : ℕ) (data : List UInt8) (final : Bool)
    (s : Updater) : Updater :=
  let (s, began) := if index = 0 then beginPreparedInstall p s else (s, .ok ())
  match began with
  | .error _ => s
  | .ok _ =>
    if s.updateState != .receiving then s
    else
      let (s, wrote) := if 0 < data.length then writePreparedChunk p data s else (s, .ok ())
      match wrote with
      | .error _ => s
      | .ok _ => if final then (finishPreparedInstall crypto p s).1 else s

/-- Milliseconds since the last state change, as the 32-bit counter gives them. -/
def elapsed (p : Platform) (s : Updater) : ℕ :=
  (p.millis + 2^32 - s.stateSinceMs) % 2^32

/-- The local health that a new image needs to be accepted. -/
def localHealthOk (profile : BuildProfile) (p : Platform) (criticalStorageReady : Bool) : Bool :=
  !profile.FORCE_VALIDATION_FAILURE && criticalStorageReady &&
    MIN_HEAP_FOR_VALID_IMAGE ≤ p.freeHeap

/-- Keep the running image; marking it can fail, which fails the update. -/
def acceptImage (p : Platform) (s : Updater) : Updater :=
  let s := { s with device := { s.device with verdicts := s.device.verdicts ++ [.markValid] } }
  if p.markValid = 0 then setState p .valid { s with lastError := "" }
  else failUpdate p ("mark_valid_failed_" ++ toString p.markValid) s

/-- Give the running image up and roll back. -/
def rejectImage (profile : BuildProfile) (p : Platform) (s : Updater) : Updater :=
  let error := if profile.FORCE_VALIDATION_FAILURE then "forced_boot_validation_failure"
    else "boot_validation_failed"
  let s := setState p .rollback { s with lastError := error }
  { s with device := { s.device with verdicts := s.device.verdicts ++ [.markInvalid]
                                     restarted := p.rollbackReboots } }

/-- One pass of the main loop: reboot into a new image, or judge this one. -/
def tick (profile : BuildProfile) (p : Platform) (criticalStorageReady : Bool)
    (s : Updater) : Updater :=
  if s.updateState = .pendingReboot ∧ REBOOT_DELAY_MS ≤ elapsed p s then
    { s with device := { s.device with restarted := true } }
  else if s.updateState ≠ .pendingVerify then s
  else if localHealthOk profile p criticalStorageReady ∧ VALIDATION_MIN_MS ≤ elapsed p s then
    acceptImage p s
  else if !localHealthOk profile p criticalStorageReady ∧
      VALIDATION_TIMEOUT_MS ≤ elapsed p s then
    rejectImage profile p s
  else s

/-! ### What each call can do -/

/-- Releasing the hash leaves it inactive, whether or not it was active. -/
theorem clearUploadHash_eq (s : Updater) :
    clearUploadHash s = { s with uploadHashActive := false } := by
  obtain ⟨_, _, _, _, _, active, _, _, _⟩ := s
  cases active <;> rfl

/-- The digest is there when a context was active and the library succeeds. -/
theorem finishUploadHash_eq (crypto : Crypto) (p : Platform) (s : Updater) :
    finishUploadHash crypto p s =
      ({ s with uploadHashActive := false },
        if s.uploadHashActive && p.hashFinishes then some (crypto.sha256 s.uploadHash)
        else none) := by
  obtain ⟨_, _, _, _, _, active, _, _, _⟩ := s
  cases active <;> rfl

/-- Failing closes the session and releases the hash in every state. -/
theorem failUpdate_eq (p : Platform) (reason : String) (s : Updater) :
    failUpdate p reason s =
      { s with updateState := .failed, stateSinceMs := p.millis, updateSessionOpen := false
               uploadHashActive := false, lastError := reason } := by
  obtain ⟨_, _, _, _, opened, _, _, _, _⟩ := s
  cases opened <;> simp only [failUpdate, clearUploadHash_eq] <;> rfl

/-- The update has been given up: no session, no hash, and nothing else that
later calls depend on has changed. -/
structure GivenUp (s t : Updater) : Prop where
  /-- The state is `FAILED`. -/
  updateState : t.updateState = .failed
  /-- No session is open. -/
  session : t.updateSessionOpen = false
  /-- The hash context is freed. -/
  hash : t.uploadHashActive = false
  /-- The package is the same. -/
  package : t.preparedMetadata = s.preparedMetadata
  /-- No session has been opened. -/
  sessions : t.device.sessions = s.device.sessions
  /-- No verdict has been given. -/
  verdicts : t.device.verdicts = s.device.verdicts
  /-- The device has not been restarted. -/
  restarted : t.device.restarted = s.device.restarted

/-- A call that refused: it reported an error and gave the update up. -/
structure GivesUp (s : Updater) (out : Outcome) : Prop where
  /-- An error is returned. -/
  error : ∃ text, out.2 = .error text
  /-- The update is given up. -/
  state : GivenUp s out.1

/-- Failing gives the update up in every state that has the same package and
the same device log, apart from the bytes written. -/
theorem failWith_givesUp {s t : Updater} (p : Platform) (reason : String)
    (hpackage : t.preparedMetadata = s.preparedMetadata)
    (hsessions : t.device.sessions = s.device.sessions)
    (hverdicts : t.device.verdicts = s.device.verdicts)
    (hrestarted : t.device.restarted = s.device.restarted) :
    GivesUp s (failWith p reason t) := by
  refine ⟨⟨reason, rfl⟩, ?_⟩
  simp only [failWith, failUpdate_eq]
  exact ⟨rfl, rfl, rfl, hpackage, hsessions, hverdicts, hrestarted⟩

/-- The state of a session that has just been opened. -/
def opened (p : Platform) (s : Updater) : Updater :=
  { s with updateState := .receiving, stateSinceMs := p.millis, receivedBytes := 0, lastError := ""
           uploadHashActive := true, uploadHash := [], updateSessionOpen := true
           device := { s.device with sessions := s.device.sessions + 1, written := [] } }

/-- A session can be opened for the prepared package. -/
def opens (p : Platform) (s : Updater) : Bool :=
  s.preparedMetadata.valid && packageFits p s.preparedMetadata && p.hashStarts && p.updateBegins

/-- Opening a session asks only for package, partition, hash and flash; the
state it is called in makes no difference. -/
theorem beginPreparedInstall_ok {p : Platform} {s : Updater} (h : opens p s = true) :
    beginPreparedInstall p s = (opened p s, .ok ()) := by
  simp only [opens, Bool.and_eq_true] at h
  obtain ⟨⟨⟨hvalid, hfits⟩, hhash⟩, hbegin⟩ := h
  simp [beginPreparedInstall, beginUploadHash, clearUploadHash_eq, setState, opened, hvalid, hfits,
    hhash, hbegin]

/-- When one of these is missing the update is given up. -/
theorem beginPreparedInstall_givesUp {p : Platform} {s : Updater} (h : opens p s = false) :
    GivesUp s (beginPreparedInstall p s) := by
  simp only [beginPreparedInstall, beginUploadHash, clearUploadHash_eq, setState]
  split
  · exact failWith_givesUp p _ rfl rfl rfl rfl
  · split
    · exact failWith_givesUp p _ rfl rfl rfl rfl
    · cases hhash : p.hashStarts with
      | false => exact failWith_givesUp p _ rfl rfl rfl rfl
      | true =>
        cases hbegin : p.updateBegins with
        | false => exact failWith_givesUp p _ rfl rfl rfl rfl
        | true => simp_all [opens]

/-- The state after a chunk has been hashed and written. -/
def absorbed (data : List UInt8) (s : Updater) : Updater :=
  { s with uploadHash := s.uploadHash ++ data
           receivedBytes := (s.receivedBytes + data.length) % 2^32
           device := { s.device with written := s.device.written ++ data } }

/-- The flash and the hash take a chunk of this length. -/
def takes (p : Platform) (length : ℕ) : Bool :=
  p.hashUpdates && p.updateWrites length == length

/-- Outside of a session nothing is written and nothing changes. -/
theorem writePreparedChunk_idle {p : Platform} {data : List UInt8} {s : Updater}
    (h : s.updateState ≠ .receiving) :
    writePreparedChunk p data s = (s, .error "update_not_receiving") := by
  simp [writePreparedChunk, h]

/-- A chunk is taken when it fits the package and both hash and flash work. -/
theorem writePreparedChunk_ok {p : Platform} {data : List UInt8} {s : Updater}
    (hstate : s.updateState = .receiving)
    (hsize : (s.receivedBytes + data.length) % 2^32 ≤ s.preparedMetadata.size)
    (hactive : s.uploadHashActive = true) (hdata : data ≠ [])
    (htakes : takes p data.length = true) :
    writePreparedChunk p data s = (absorbed data s, .ok ()) := by
  simp only [takes, Bool.and_eq_true, beq_iff_eq] at htakes
  have hfits : ¬s.preparedMetadata.size < (s.receivedBytes + data.length) % 2^32 :=
    Nat.not_lt.mpr hsize
  rw [writePreparedChunk, if_neg (by simp [hstate]), if_neg hfits, if_neg (by simpa using hdata)]
  simp [updateUploadHash, absorbed, hactive, htakes.1, htakes.2]

/-- An empty chunk that fits is accepted without touching anything. -/
theorem writePreparedChunk_nil {p : Platform} {s : Updater}
    (hstate : s.updateState = .receiving)
    (hsize : s.receivedBytes % 2^32 ≤ s.preparedMetadata.size) :
    writePreparedChunk p [] s = (s, .ok ()) := by
  have hfits : ¬s.preparedMetadata.size < (s.receivedBytes + ([] : List UInt8).length) % 2^32 :=
    Nat.not_lt.mpr hsize
  rw [writePreparedChunk, if_neg (by simp [hstate]), if_neg hfits, if_pos List.length_nil]

/-- A chunk that does not fit, or that hash or flash do not take, gives the
update up. -/
theorem writePreparedChunk_givesUp {p : Platform} {data : List UInt8} {s : Updater}
    (hstate : s.updateState = .receiving)
    (h : s.preparedMetadata.size < (s.receivedBytes + data.length) % 2^32 ∨
      data ≠ [] ∧ (s.uploadHashActive && takes p data.length) = false) :
    GivesUp s (writePreparedChunk p data s) := by
  simp only [writePreparedChunk, hstate, bne_self_eq_false, Bool.false_eq_true, if_false]
  split
  · exact failWith_givesUp p _ rfl rfl rfl rfl
  · rename_i hsize
    obtain ⟨hdata, htakes⟩ := h.resolve_left hsize
    simp only [List.length_eq_zero_iff, if_neg hdata, updateUploadHash]
    cases hhash : (s.uploadHashActive && p.hashUpdates) with
    | false => exact failWith_givesUp p _ rfl rfl rfl rfl
    | true =>
      simp only [Bool.and_eq_true] at hhash
      simp only [takes, hhash.1, hhash.2, Bool.true_and, beq_eq_false_iff_ne] at htakes
      simp only [if_true, bne_iff_ne, ne_eq, htakes, not_false_eq_true]
      exact failWith_givesUp p _ rfl rfl rfl rfl

/-- The four ways of a chunk: refused outside of a session, accepted empty,
taken, or the end of the update. -/
theorem writePreparedChunk_cases (p : Platform) (data : List UInt8) (s : Updater) :
    s.updateState ≠ .receiving ∧
        writePreparedChunk p data s = (s, .error "update_not_receiving") ∨
      s.updateState = .receiving ∧ data = [] ∧ writePreparedChunk p data s = (s, .ok ()) ∨
      s.updateState = .receiving ∧ data ≠ [] ∧ s.uploadHashActive = true ∧
        takes p data.length = true ∧
        (s.receivedBytes + data.length) % 2^32 ≤ s.preparedMetadata.size ∧
        writePreparedChunk p data s = (absorbed data s, .ok ()) ∨
      s.updateState = .receiving ∧ GivesUp s (writePreparedChunk p data s) := by
  by_cases hstate : s.updateState = .receiving
  · by_cases hfull : s.preparedMetadata.size < (s.receivedBytes + data.length) % 2^32
    · have hgiven : GivesUp s (writePreparedChunk p data s) :=
        writePreparedChunk_givesUp hstate (.inl hfull)
      exact .inr (.inr (.inr ⟨hstate, hgiven⟩))
    · have hfit := Nat.le_of_not_lt hfull
      by_cases hdata : data = []
      · subst hdata
        exact .inr (.inl ⟨hstate, rfl, writePreparedChunk_nil hstate hfit⟩)
      · cases hworks : s.uploadHashActive && takes p data.length with
        | false =>
          have hgiven : GivesUp s (writePreparedChunk p data s) :=
            writePreparedChunk_givesUp hstate (.inr ⟨hdata, hworks⟩)
          exact .inr (.inr (.inr ⟨hstate, hgiven⟩))
        | true =>
          obtain ⟨hactive, htakes⟩ := Bool.and_eq_true_iff.mp hworks
          have htaken := writePreparedChunk_ok hstate hfit hactive hdata htakes
          exact .inr (.inr (.inl ⟨hstate, hdata, hactive, htakes, hfit, htaken⟩))
  · exact .inl ⟨hstate, writePreparedChunk_idle hstate⟩

/-- The state of a verified image that waits for the restart. -/
def sealedImage (p : Platform) (s : Updater) : Updater :=
  { s with updateState := .pendingReboot, stateSinceMs := p.millis, updateSessionOpen := false
           uploadHashActive := false, lastError := "" }

/-- The received image is complete and its digest is the expected one. -/
def complete (crypto : Crypto) (s : Updater) : Bool :=
  s.receivedBytes == s.preparedMetadata.size && s.uploadHashActive &&
    crypto.sha256 s.uploadHash == s.preparedMetadata.sha256

/-- Outside of a session nothing is finished and nothing changes. -/
theorem finishPreparedInstall_idle {crypto : Crypto} {p : Platform} {s : Updater}
    (h : s.updateState ≠ .receiving) :
    finishPreparedInstall crypto p s = (s, .error "update_not_receiving") := by
  simp [finishPreparedInstall, h]

/-- A complete image is sealed when the last hash and flash calls succeed. -/
theorem finishPreparedInstall_ok {crypto : Crypto} {p : Platform} {s : Updater}
    (hstate : s.updateState = .receiving) (hcomplete : complete crypto s = true)
    (hfinish : p.hashFinishes = true) (hend : p.updateEnds = true) :
    finishPreparedInstall crypto p s = (sealedImage p s, .ok ()) := by
  simp only [complete, Bool.and_eq_true, beq_iff_eq] at hcomplete
  obtain ⟨⟨hsize, hactive⟩, hdigest⟩ := hcomplete
  simp [finishPreparedInstall, finishUploadHash, setState, sealedImage, hstate, hsize, hactive,
    hdigest, hfinish, hend]

/-- Anything else gives the update up. -/
theorem finishPreparedInstall_givesUp {crypto : Crypto} {p : Platform} {s : Updater}
    (hstate : s.updateState = .receiving)
    (h : (complete crypto s && p.hashFinishes && p.updateEnds) = false) :
    GivesUp s (finishPreparedInstall crypto p s) := by
  unfold finishPreparedInstall
  rw [if_neg (by simp [hstate])]
  dsimp only [setState]
  rw [finishUploadHash_eq]
  dsimp only
  split
  · exact failWith_givesUp p _ rfl rfl rfl rfl
  · rename_i hsize
    cases hhash : s.uploadHashActive && p.hashFinishes with
    | false => exact failWith_givesUp p _ rfl rfl rfl rfl
    | true =>
      simp only [if_true]
      split
      · exact failWith_givesUp p _ rfl rfl rfl rfl
      · rename_i hdigest
        split
        · exact failWith_givesUp p _ rfl rfl rfl rfl
        · simp_all [complete]

/-- The three ways of a finish: refused outside of a session, a sealed image,
or the end of the update. -/
theorem finishPreparedInstall_cases (crypto : Crypto) (p : Platform) (s : Updater) :
    s.updateState ≠ .receiving ∧
        finishPreparedInstall crypto p s = (s, .error "update_not_receiving") ∨
      s.updateState = .receiving ∧ complete crypto s = true ∧
        finishPreparedInstall crypto p s = (sealedImage p s, .ok ()) ∨
      s.updateState = .receiving ∧ GivesUp s (finishPreparedInstall crypto p s) := by
  by_cases hstate : s.updateState = .receiving
  · cases hdone : complete crypto s && p.hashFinishes && p.updateEnds with
    | false => exact .inr (.inr ⟨hstate, finishPreparedInstall_givesUp hstate hdone⟩)
    | true =>
      simp only [Bool.and_eq_true] at hdone
      obtain ⟨⟨hcomplete, hfinish⟩, hend⟩ := hdone
      exact .inr (.inl ⟨hstate, hcomplete,
        finishPreparedInstall_ok hstate hcomplete hfinish hend⟩)
  · exact .inl ⟨hstate, finishPreparedInstall_idle hstate⟩

/-- Preparing a package touches package and error text only, and leaves a
verified package, none, or the one that was there. -/
theorem preparePackage_cases (fw : Firmware α) (p : Platform) (manifest signature : String)
    (s : Updater) :
    ∃ package error, (preparePackage fw p manifest signature s).1 =
        { s with preparedMetadata := package, lastError := error } ∧
      (package = s.preparedMetadata ∨ package = clear ∨
        Verified fw.json fw.crypto fw.profile.identity manifest signature package) := by
  have hprepare := prepare_package fw.json fw.crypto fw.profile.identity p.manifestHashes manifest
    signature
  unfold preparePackage
  split
  · exact ⟨_, _, rfl, .inl rfl⟩
  · split
    · rename_i h
      rw [h] at hprepare
      exact ⟨_, _, rfl, .inr hprepare⟩
    · rename_i h
      rw [h] at hprepare
      split
      · exact ⟨_, _, rfl, .inr (.inl rfl)⟩
      · exact ⟨_, _, rfl, .inr hprepare⟩

/-- A manifest that passes is prepared, when packages may be and it fits. -/
theorem preparePackage_of_checked {fw : Firmware α} {p : Platform} {manifest signature : String}
    {s : Updater} {metadata : Metadata} (hcan : canPreparePackage s = true)
    (hcheck : checkManifest fw.json fw.crypto fw.profile.identity p.manifestHashes manifest
      signature = .ok metadata) (hfits : packageFits p metadata = true) :
    preparePackage fw p manifest signature s =
      ({ s with preparedMetadata := metadata, lastError := "" }, .ok ()) := by
  unfold preparePackage prepare
  simp only [hcan, hcheck, hfits, Bool.not_true, Bool.false_eq_true, if_false]

/-- A package that has been prepared is the one that the manifest describes. -/
theorem preparePackage_ok {fw : Firmware α} {p : Platform} {manifest signature : String}
    {s t : Updater} (h : preparePackage fw p manifest signature s = (t, .ok ())) :
    checkManifest fw.json fw.crypto fw.profile.identity p.manifestHashes manifest signature =
      .ok t.preparedMetadata := by
  unfold preparePackage prepare at h
  split at h
  · cases h
  · cases hcheck : checkManifest fw.json fw.crypto fw.profile.identity p.manifestHashes manifest
        signature with
    | error error =>
      rw [hcheck] at h
      cases h
    | ok metadata =>
      rw [hcheck] at h
      dsimp only at h
      split at h
      · cases h
      · cases h
        rfl

/-- Where no package may be prepared the prepared one stays. -/
theorem preparePackage_busy {fw : Firmware α} {p : Platform} {manifest signature : String}
    {s : Updater} (h : canPreparePackage s = false) :
    preparePackage fw p manifest signature s =
      ({ s with lastError := "update_busy" }, .error "update_busy") := by
  simp [preparePackage, h]

/-- What keeping the image leaves: the verdict, and no session that was not open. -/
theorem acceptImage_spec (p : Platform) (s : Updater) :
    (acceptImage p s).updateState = (if p.markValid = 0 then .valid else .failed) ∧
      (acceptImage p s).device.verdicts = s.device.verdicts ++ [.markValid] ∧
      (acceptImage p s).preparedMetadata = s.preparedMetadata ∧
      (s.updateSessionOpen = false → (acceptImage p s).updateSessionOpen = false) := by
  unfold acceptImage
  dsimp only
  split
  · exact ⟨rfl, rfl, rfl, fun hclosed => hclosed⟩
  · rw [failUpdate_eq]
    exact ⟨rfl, rfl, rfl, fun _ => rfl⟩

/-- An accepted image is neither received nor sealed. -/
theorem acceptImage_outside (p : Platform) (s : Updater) :
    (acceptImage p s).updateState = .valid ∨ (acceptImage p s).updateState = .failed := by
  rw [(acceptImage_spec p s).1]
  split
  · exact .inl rfl
  · exact .inr rfl

/-- The four things that a tick can do, with what led to each of them. -/
theorem tick_cases (profile : BuildProfile) (p : Platform) (ready : Bool) (s : Updater) :
    tick profile p ready s = s ∨
      (s.updateState = .pendingReboot ∧
        tick profile p ready s = { s with device := { s.device with restarted := true } }) ∨
      (s.updateState = .pendingVerify ∧ localHealthOk profile p ready = true ∧
        VALIDATION_MIN_MS ≤ elapsed p s ∧ tick profile p ready s = acceptImage p s) ∨
      (s.updateState = .pendingVerify ∧ localHealthOk profile p ready = false ∧
        VALIDATION_TIMEOUT_MS ≤ elapsed p s ∧
        tick profile p ready s = rejectImage profile p s) := by
  unfold tick
  split
  · rename_i h
    exact .inr (.inl ⟨h.1, rfl⟩)
  · split
    · exact .inl rfl
    · rename_i hstate
      split
      · rename_i h
        exact .inr (.inr (.inl ⟨not_not.mp hstate, h.1, h.2, rfl⟩))
      · split
        · rename_i h
          exact .inr (.inr (.inr ⟨not_not.mp hstate, by simpa using h.1, h.2, rfl⟩))
        · exact .inl rfl

/-! ### The calls that leave the package alone -/

/-- A start leaves the prepared package. -/
theorem beginPreparedInstall_package (p : Platform) (s : Updater) :
    (beginPreparedInstall p s).1.preparedMetadata = s.preparedMetadata := by
  cases hopens : opens p s with
  | false => exact (beginPreparedInstall_givesUp hopens).state.package
  | true =>
    rw [beginPreparedInstall_ok hopens]
    rfl

/-- A chunk leaves the prepared package. -/
theorem writePreparedChunk_package (p : Platform) (data : List UInt8) (s : Updater) :
    (writePreparedChunk p data s).1.preparedMetadata = s.preparedMetadata := by
  rcases writePreparedChunk_cases p data s with ⟨_, heq⟩ | ⟨_, _, heq⟩ |
      ⟨_, _, _, _, _, heq⟩ | ⟨_, hgiven⟩
  · rw [heq]
  · rw [heq]
  · rw [heq]
    rfl
  · exact hgiven.state.package

/-- An end leaves the prepared package. -/
theorem finishPreparedInstall_package (crypto : Crypto) (p : Platform) (s : Updater) :
    (finishPreparedInstall crypto p s).1.preparedMetadata = s.preparedMetadata := by
  rcases finishPreparedInstall_cases crypto p s with ⟨_, heq⟩ | ⟨_, _, heq⟩ | ⟨_, hgiven⟩
  · rw [heq]
  · rw [heq]
    rfl
  · exact hgiven.state.package

/-- A tick leaves the prepared package. -/
theorem tick_package (profile : BuildProfile) (p : Platform) (ready : Bool) (s : Updater) :
    (tick profile p ready s).preparedMetadata = s.preparedMetadata := by
  rcases tick_cases profile p ready s with heq | ⟨_, heq⟩ | ⟨_, _, _, heq⟩ | ⟨_, _, _, heq⟩
  · rw [heq]
  · rw [heq]
  · rw [heq]
    exact (acceptImage_spec p s).2.2.1
  · rw [heq]
    rfl

end ProjEsp32.FirmwareUpdate
