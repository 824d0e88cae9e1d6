import ProjEsp32.AvailablePackage

/-!
# What a prepared package is worth

The package record is written by four functions: `FirmwareUpdate::begin`,
`preparePackage`, and `prepare` and `clear` of the verifier. Here they are
called in any order, with the other functions of the update service between
them. Installs trust the record without checking it again, so that everything
it promises has to come from the last `prepare` that ran.
-/

namespace ProjEsp32.PreparedPackages

open ArduinoText ArduinoJson CheckedResult FirmwarePackageVerifier FirmwareUpdate TransitionRuns
open AvailablePackage (manifestMetadata checkManifest_metadata preparePackage_metadata
  storedMetadata)
open FirmwareUpdateRuns (sampleDevice sample_preparePackage)

variable {α : Type}

/-- One run of `prepare`, and the platform that `preparePackage` met when it
was the caller. -/
structure PrepareRun where
  /-- The text of the manifest. -/
  manifest : String
  /-- Its signature. -/
  signature : String
  /-- What `preparePackage` met; none when it was not the caller. -/
  service : Option Platform := none

/-- The service, with the most recent `prepare` that ran; no call reads it. -/
structure Packages where
  /-- The update service. -/
  updater : Updater := {}
  /-- The last `prepare` that ran. -/
  lastPrepare : Option PrepareRun := none

/-- The calls that write the package record, and the other public functions of
the service. -/
inductive PackageCall where
  | begin (p : Platform) (runningPendingVerify criticalStorageReady : Bool)
  | preparePackage (p : Platform) (manifest signature : String)
  | prepare (callsSucceed : Bool) (manifest signature : String)
  | clear
  | beginPreparedInstall (p : Platform)
  | writePreparedChunk (p : Platform) (data : List UInt8)
  | finishPreparedInstall (p : Platform)
  | tick (p : Platform) (criticalStorageReady : Bool)

/-- What one call does. A busy `preparePackage` does not reach `prepare`. -/
def perform (fw : Firmware α) (s : Packages) : PackageCall → Packages
  | .begin p pendingVerify ready => { s with updater := begin p pendingVerify ready s.updater }
  | .preparePackage p manifest signature =>
    { updater := (preparePackage fw p manifest signature s.updater).1
      lastPrepare := if canPreparePackage s.updater then some ⟨manifest, signature, some p⟩
        else s.lastPrepare }
  | .prepare callsSucceed manifest signature =>
    { updater := { s.updater with
        preparedMetadata := (prepare fw.json fw.crypto fw.profile.identity callsSucceed manifest
          signature).1 }
      lastPrepare := some ⟨manifest, signature, none⟩ }
  | .clear => { s with updater := { s.updater with preparedMetadata := clear } }
  | .beginPreparedInstall p => { s with updater := (beginPreparedInstall p s.updater).1 }
  | .writePreparedChunk p data => { s with updater := (writePreparedChunk p data s.updater).1 }
  | .finishPreparedInstall p =>
    { s with updater := (finishPreparedInstall fw.crypto p s.updater).1 }
  | .tick p ready => { s with updater := tick fw.profile p ready s.updater }

/-- One step of a run; a restarted device takes no call in this boot. -/
def call (fw : Firmware α) (s : Packages) (c : PackageCall) : Packages :=
  if s.updater.device.restarted then s else perform fw s c

/-- The digits are those of the digest, two for each of its 32 bytes. -/
structure DigitsOf (digits : String) (digest : List UInt8) : Prop where
  /-- There are 64 digits. -/
  digits_length : digits.length = 64
  /-- And 32 bytes. -/
  digest_length : digest.length = 32
  /-- Each byte has two of the digits. -/
  digits : ∀ i < 32, ∃ high low, digits.toList[2*i]?.bind hexNibble = some high ∧
    digits.toList[2*i + 1]?.bind hexNibble = some low ∧
      digest[i]? = some (16*high + low).toUInt8

/-- Everything that a prepared package promises, with the `prepare` that stored it. -/
structure Trusted (fw : Firmware α) (ran : PrepareRun) (package : Metadata) : Prop where
  /-- Signature, applicability and form of every field. -/
  verified : Verified fw.json fw.crypto fw.profile.identity ran.manifest ran.signature package
  /-- Every field is the one of the document that these manifest bytes hold. -/
  metadata : manifestMetadata fw.json ran.manifest = some package
  /-- The digest is the one that the digits spell. -/
  digest : DigitsOf package.sha256Hex package.sha256
  /-- A package that came through the service fits the next update partition. -/
  fits : ∀ p, ran.service = some p → ∃ size, p.nextUpdate = some size ∧ package.size ≤ size

/-- A prepared package is the one of the last `prepare` that ran. -/
def PreparedTrusted (fw : Firmware α) (s : Packages) : Prop :=
  s.updater.preparedMetadata.valid = true →
    ∃ ran, s.lastPrepare = some ran ∧ Trusted fw ran s.updater.preparedMetadata

/-- A call that fails leaves no package behind, except the busy refusal, which
leaves the one that was there. -/
structure FailsClosed (fw : Firmware α) (u : Updater) : Prop where
  /-- Of `preparePackage`. -/
  preparePackage : ∀ p manifest signature error,
    (preparePackage fw p manifest signature u).2 = .error error →
      if error = "update_busy" then
        (preparePackage fw p manifest signature u).1.preparedMetadata = u.preparedMetadata
      else (preparePackage fw p manifest signature u).1.preparedMetadata.valid = false
  /-- Of `prepare`, when it is called by itself. -/
  prepare : ∀ callsSucceed manifest signature error,
    (prepare fw.json fw.crypto fw.profile.identity callsSucceed manifest signature).2 =
        .error error →
      (prepare fw.json fw.crypto fw.profile.identity callsSucceed manifest
        signature).1.valid = false

variable {fw : Firmware α} {s : Packages}

/-- Sixty-four digits are read byte by byte. -/
theorem digitsOf_of_parseSha256 {digits : String} {digest : List UInt8}
    (h : parseSha256 digits = some digest) : DigitsOf digits digest := by
  unfold parseSha256 at h
  split at h
  · rename_i hlength
    obtain ⟨hdigits, hbytes⟩ := hexBytes_some h
    have hdigest : digest.length = 32 := by
      rw [String.length_toList] at hdigits
      omega
    exact ⟨hlength, hdigest, fun i hi => hbytes i (hdigest ▸ hi)⟩
  · cases h

/-- A manifest that passes gives a package that can be trusted, when the service
asks that it fits and it does. -/
theorem trusted_of_checkManifest {callsSucceed : Bool} {ran : PrepareRun} {package : Metadata}
    (h : checkManifest fw.json fw.crypto fw.profile.identity callsSucceed ran.manifest
      ran.signature = .ok package)
    (hfits : ∀ p, ran.service = some p → packageFits p package = true) :
    Trusted fw ran package := by
  have hverified := checkManifest_ok h
  refine ⟨hverified, (checkManifest_metadata h).2, digitsOf_of_parseSha256 hverified.digest, ?_⟩
  intro p hp
  have hfit := hfits p hp
  unfold packageFits at hfit
  split at hfit
  · rename_i size hsize
    exact ⟨size, hsize, of_decide_eq_true hfit⟩
  · cases hfit

/-- What the service keeps of a manifest is a package to trust, or none. -/
theorem storedMetadata_trusted (p : Platform) (manifest signature : String)
    (h : (storedMetadata fw p manifest signature).valid = true) :
    Trusted fw ⟨manifest, signature, some p⟩ (storedMetadata fw p manifest signature) := by
  unfold storedMetadata at h ⊢
  cases hcheck : checkManifest fw.json fw.crypto fw.profile.identity p.manifestHashes manifest
      signature with
  | error error =>
    rw [hcheck] at h
    cases h
  | ok package =>
    rw [hcheck] at h
    dsimp only at h ⊢
    cases hfits : packageFits p package with
    | false =>
      rw [hfits] at h
      cases h
    | true =>
      refine trusted_of_checkManifest hcheck ?_
      intro q hq
      cases hq
      exact hfits

/-- Where package and record stay, the promise stays. -/
theorem PreparedTrusted.of_eq {t : Packages} (h : PreparedTrusted fw s)
    (hpackage : t.updater.preparedMetadata = s.updater.preparedMetadata)
    (hlast : t.lastPrepare = s.lastPrepare) : PreparedTrusted fw t := by
  unfold PreparedTrusted
  rw [hpackage, hlast]
  exact h

/-- Nothing is promised of a package that is not prepared. -/
theorem preparedTrusted_of_clear {t : Packages} (h : t.updater.preparedMetadata = clear) :
    PreparedTrusted fw t := by
  intro hvalid
  rw [h] at hvalid
  cases hvalid

/-- `begin` forgets the package. -/
theorem begin_package (p : Platform) (pendingVerify ready : Bool) (u : Updater) :
    (begin p pendingVerify ready u).preparedMetadata = clear := by
  simp only [begin, clearUploadHash_eq, setState]
  split <;> rfl

/-- A `preparePackage` that is let through leaves what the service keeps. -/
theorem perform_preparePackage (h : PreparedTrusted fw s) (p : Platform)
    (manifest signature : String) :
    PreparedTrusted fw (perform fw s (.preparePackage p manifest signature)) := by
  cases hcan : canPreparePackage s.updater with
  | false =>
    refine h.of_eq ?_ ?_
    · simp only [perform, preparePackage_busy hcan]
    · simp only [perform, hcan, Bool.false_eq_true, if_false]
  | true =>
    intro hvalid
    simp only [perform, preparePackage_metadata fw p manifest signature hcan] at hvalid ⊢
    exact ⟨_, if_pos hcan, storedMetadata_trusted p manifest signature hvalid⟩

/-- A `prepare` of the verifier alone leaves a package to trust, or none. -/
theorem perform_prepare (callsSucceed : Bool) (manifest signature : String) :
    PreparedTrusted fw (perform fw s (.prepare callsSucceed manifest signature)) := by
  cases hcheck : checkManifest fw.json fw.crypto fw.profile.identity callsSucceed manifest
      signature with
  | error error => exact preparedTrusted_of_clear (by simp only [perform, prepare, hcheck])
  | ok package =>
    intro _
    refine ⟨⟨manifest, signature, none⟩, rfl, ?_⟩
    simp only [perform, prepare, hcheck]
    refine trusted_of_checkManifest hcheck ?_
    intro p hp
    cases hp

/-- Every call keeps the promise. -/
theorem call_preparedTrusted (s : Packages) (c : PackageCall) (h : PreparedTrusted fw s) :
    PreparedTrusted fw (call fw s c) := by
  unfold call
  split
  · exact h
  · cases c with
    | begin p pendingVerify ready => exact preparedTrusted_of_clear (begin_package ..)
    | preparePackage p manifest signature => exact perform_preparePackage h p manifest signature
    | prepare callsSucceed manifest signature => exact perform_prepare _ _ _
    | clear => exact preparedTrusted_of_clear rfl
    | beginPreparedInstall p => exact h.of_eq (beginPreparedInstall_package ..) rfl
    | writePreparedChunk p data => exact h.of_eq (writePreparedChunk_package ..) rfl
    | finishPreparedInstall p => exact h.of_eq (finishPreparedInstall_package ..) rfl
    | tick p ready => exact h.of_eq (tick_package ..) rfl

/-- A failed `preparePackage` leaves no package, unless it was refused as busy;
then it leaves the one that was there. -/
theorem preparePackage_error {p : Platform} {manifest signature error : String} {u : Updater}
    (h : (preparePackage fw p manifest signature u).2 = .error error) :
    if error = "update_busy" then
      (preparePackage fw p manifest signature u).1.preparedMetadata = u.preparedMetadata
    else (preparePackage fw p manifest signature u).1.preparedMetadata.valid = false := by
  cases hcan : canPreparePackage u with
  | false =>
    rw [preparePackage_busy hcan] at h ⊢
    cases h
    exact rfl
  | true =>
    rw [preparePackage_metadata fw p manifest signature hcan]
    simp only [preparePackage, prepare, storedMetadata, hcan, Bool.not_true, Bool.false_eq_true,
      if_false] at h ⊢
    cases hcheck : checkManifest fw.json fw.crypto fw.profile.identity p.manifestHashes manifest
        signature with
    | error other =>
      rw [hcheck] at h
      cases h
      have hbusy : error ≠ "update_busy" := by
        rintro rfl
        exact absurd (checkManifest_refuses _ _ _ _ _ _ _ hcheck) (by decide)
      rw [if_neg hbusy]
      rfl
    | ok package =>
      rw [hcheck] at h
      dsimp only at h ⊢
      cases hfits : packageFits p package with
      | false =>
        rw [hfits] at h
        cases h
        exact rfl
      | true =>
        rw [hfits] at h
        cases h

/-- A failed `prepare` of the verifier leaves no package. -/
theorem prepare_error {callsSucceed : Bool} {manifest signature error : String}
    (h : (prepare fw.json fw.crypto fw.profile.identity callsSucceed manifest signature).2 =
      .error error) :
    (prepare fw.json fw.crypto fw.profile.identity callsSucceed manifest signature).1.valid =
      false := by
  unfold prepare at h ⊢
  split at h
  · cases h
  · rfl

/-- After any sequence of calls since the device started, a prepared package is
the one of the last `prepare` that ran, which has checked all of it, and a call
that fails there leaves none. -/
theorem prepared_packages_fail_closed (fw : Firmware α) (calls : List PackageCall) :
    PreparedTrusted fw (run (call fw) {} calls) ∧
      FailsClosed fw (run (call fw) {} calls).updater := by
  have hstart : PreparedTrusted fw ({} : Packages) := preparedTrusted_of_clear rfl
  exact ⟨run_invariant call_preparedTrusted hstart calls,
    fun _ _ _ _ h => preparePackage_error h, fun _ _ _ _ h => prepare_error h⟩

/-- The sample package is prepared, and a manifest that fails after it leaves none. -/
example :
    let prepared := PackageCall.preparePackage {} sampleManifest "MAA="
    let failing := PackageCall.prepare true "" "MAA="
    (run (call sampleDevice) {} [prepared]).updater.preparedMetadata.valid = true ∧
      (run (call sampleDevice) {} [prepared, failing]).updater.preparedMetadata.valid = false := by
  intro prepared failing
  have hcan : canPreparePackage {} = true := by decide
  have hprepared : call sampleDevice {} prepared =
      ⟨{ preparedMetadata := sampleMetadata }, some ⟨sampleManifest, "MAA=", some {}⟩⟩ := by
    rw [call, if_neg (by decide), perform, sample_preparePackage hcan, if_pos hcan]
  rw [run_cons, run_cons, run_cons, run_nil, run_nil, hprepared]
  exact ⟨rfl, by decide⟩

end ProjEsp32.PreparedPackages
