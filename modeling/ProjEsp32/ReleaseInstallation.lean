import ProjEsp32.AvailablePackage
import ProjEsp32.DownloadLoops
import ProjEsp32.ReleaseManifest

/-!
# From the release script to the flash

The release script leaves three files on a server: the manifest, the signature over its
bytes, and the firmware. A device that is asked to check the URL of the manifest fetches the
first two and prepares the package; asked to apply it, it fetches the third into the inactive
slot and seals it. The parts agree: a release for this device ends in the flash byte by byte,
however the network cuts and delays its files, and a release for another one is refused
before anything is written.
-/

namespace ProjEsp32.ReleaseInstallation

open ArduinoText ArduinoJson AvailablePackage CheckedResult DownloadLoops FirmwarePackageVerifier
open PythonJson ReleaseManifest RemoteTransfer RemoteWorkers TransitionRuns
open FirmwareUpdate hiding Outcome boot
open FirmwareUpdateRuns (sampleDevice)
open PolledReads hiding run_cons run_nil

variable {α σ : Type}

/-! ### The files -/

/-- What the release script writes, and what it was given. -/
structure Release where
  /-- The arguments of the script. -/
  args : Arguments
  /-- The bytes of firmware.bin. -/
  firmware : List UInt8
  /-- The bytes of manifest.sig. -/
  signature : List UInt8

/-- The bytes of manifest.json. -/
def Release.manifest (crypto : Crypto) (r : Release) : String :=
  manifestText crypto r.args r.firmware

/-- The release is for this device. -/
def Release.Fits (fw : Firmware α) (r : Release) : Prop :=
  Applicable fw.profile.identity r.args r.firmware

/-- A file is answered to a request that reads it in a loop: its length is declared, and the
turns of the loop deliver its bytes. -/
structure Served (loop : Loop UInt8 String σ Platform) (ready : Platform → Prop)
    (content : List UInt8) (reply : Reply) : Prop where
  /-- The request is made. -/
  begins : reply.begins = true
  /-- It is answered. -/
  code : reply.code = HTTP_CODE_OK
  /-- The length is declared. -/
  contentLength : reply.contentLength = content.length
  /-- The turns of the loop bring the content. -/
  delivers : Delivers loop ready (turnsOf reply) (reply.clock % 2^32) content

/-- The next update partition has room for the image. -/
def HasRoom (p : Platform) (size : ℕ) : Prop :=
  ∃ room, p.nextUpdate = some room ∧ size ≤ room

/-- What a check worker meets that finds the files of a release. -/
structure CheckServed (fw : Firmware α) (r : Release) (inputs : CheckInputs) : Prop where
  /-- The radio is up. -/
  wifi : inputs.wifiConnected = true
  /-- The request for the manifest is made. -/
  begins : inputs.manifest.begins = true
  /-- It is answered. -/
  code : inputs.manifest.code = HTTP_CODE_OK
  /-- The length may be left out. -/
  contentLength : inputs.manifest.contentLength ≤ 0 ∨
    inputs.manifest.contentLength = (r.manifest fw.crypto).length
  /-- The manifest is that of the release. -/
  body : inputs.manifestBody = r.manifest fw.crypto
  /-- The signature is delivered. -/
  signature : Served (signatureLoop r.signature.length) (fun _ => True) r.signature
    inputs.signature
  /-- The hash of the manifest is computed. -/
  hashes : inputs.platform.manifestHashes = true
  /-- The image has room in the next partition. -/
  partition : HasRoom inputs.platform r.firmware.length

variable {fw : Firmware α} {r : Release} {url : String}

/-! ### The transport -/

/-- A URL of HTTPS, or any URL of an image that accepts plain HTTP, can be begun. -/
theorem beginHttp_ok {profile : BuildProfile}
    (h : startsWith url "https://" = true ∨ profile.ALLOW_HTTP = true) :
    beginHttp profile true url = .ok () := by
  unfold beginHttp
  by_cases hsecure : startsWith url "https://" = true
  · rw [if_pos hsecure]
    rfl
  · have hplain : profile.ALLOW_HTTP = true := h.resolve_left hsecure
    rw [if_neg hsecure, hplain]
    rfl

/-- The manifest of a release that fits is fetched. -/
theorem CheckServed.fetchText {inputs : CheckInputs} (h : CheckServed fw r inputs)
    (hscheme : startsWith url "https://" = true ∨ fw.profile.ALLOW_HTTP = true)
    (hnonempty : (r.manifest fw.crypto).length ≠ 0)
    (hshort : (r.manifest fw.crypto).length ≤ MAX_MANIFEST_BYTES) :
    RemoteTransfer.fetchText fw.profile inputs.manifest inputs.manifestBody url
      MAX_MANIFEST_BYTES = .ok (r.manifest fw.crypto) := by
  have hdeclared : (decide (0 < inputs.manifest.contentLength) &&
      decide (MAX_MANIFEST_BYTES < inputs.manifest.contentLength.toNat)) = false := by
    rcases h.contentLength with hnone | hlength
    · rw [decide_eq_false (Int.not_lt.mpr hnone), Bool.false_and]
    · rw [hlength, Int.toNat_natCast, decide_eq_false (Nat.not_lt.mpr hshort), Bool.and_false]
  have hsize : ((r.manifest fw.crypto).length == 0 ||
      decide (MAX_MANIFEST_BYTES < (r.manifest fw.crypto).length)) = false := by
    rw [decide_eq_false (Nat.not_lt.mpr hshort), Bool.or_false]
    exact beq_eq_false_iff_ne.mpr hnonempty
  unfold RemoteTransfer.fetchText
  simp only [bind_eq_ok, refuseIf_eq_ok]
  refine ⟨(), ?_, (), ?_, (), hdeclared, (), ?_, ?_⟩
  · rw [h.begins]
    exact beginHttp_ok hscheme
  · simp [h.code]
  · rw [h.body]
    exact hsize
  · rw [h.body]
    rfl

/-- The signature of a release is fetched whole. -/
theorem Served.signature (fw : Firmware α) {reply : Reply}
    {base64Encode : List UInt8 → Option String} {encoded : String}
    (h : Served (signatureLoop r.signature.length) (fun _ => True)
      r.signature reply)
    (hscheme : startsWith url "https://" = true ∨ fw.profile.ALLOW_HTTP = true)
    (hlength : 0 < r.signature.length ∧ r.signature.length ≤ MAX_SIGNATURE_BYTES)
    (hencoded : base64Encode r.signature = some encoded)
    (hsize : (encoded.length == 0 || decide (256 ≤ encoded.length)) = false) :
    fetchSignatureBase64 fw.profile base64Encode reply url = .ended (.ok encoded) := by
  have hstarts : signatureStarts fw.profile reply url = .ok r.signature.length := by
    simp only [signatureStarts, bind_eq_ok, refuseIf_eq_ok]
    refine ⟨(), ?_, (), by simp [h.code], (), ?_, ?_⟩
    · rw [h.begins]
      exact beginHttp_ok hscheme
    · have hpositive : ¬reply.contentLength ≤ 0 := by
        rw [h.contentLength]
        omega
      have hmost : ¬(MAX_SIGNATURE_BYTES : Int) < reply.contentLength := by
        rw [h.contentLength]
        omega
      simp [hpositive, hmost]
    · rw [h.contentLength, Int.toNat_natCast]
      rfl
  have hrun := run_delivers (collect_consumes r.signature.length r.signature.length
    HTTP_TIMEOUT_MS fun _ => True) [] [] h.delivers rfl rfl
  obtain ⟨hending, _, hstate⟩ := hrun
  have hresult : signatureResult (signatureRun r.signature.length reply) = some r.signature := by
    have hending' : (signatureRun r.signature.length reply).ending = .complete := hending
    have hstate' : (signatureRun r.signature.length reply).state = r.signature := hstate
    rw [signatureResult, hending', hstate']
    rfl
  rw [fetchSignatureBase64_eq, hstarts]
  dsimp only
  rw [hresult]
  dsimp only
  rw [hencoded]
  congr 1
  simp only [bind_eq_ok, refuseIf_eq_ok, orRefuse_eq_ok]
  exact ⟨(), by simp, encoded, rfl, (), hsize, rfl⟩

/-- A session that has taken these bytes. -/
def received (s : Updater) (taken : List UInt8) : Updater :=
  { s with receivedBytes := taken.length, uploadHash := taken
           device := { s.device with written := taken } }

/-- A request of any client. -/
def Request : Operation → Prop
  | .requestCheck _ _ => True
  | .requestApply _ => True
  | _ => False

variable {u : Services}

/-- Services that take a check: the device runs, packages may be prepared, and no worker is
there or left its state behind. -/
structure Ready (u : Services) : Prop where
  /-- The device has not been restarted. -/
  running : u.updater.device.restarted = false
  /-- A package may be prepared. -/
  prepares : canPreparePackage u.updater = true
  /-- No worker is on record. -/
  free : u.remote.workerTask = none
  /-- The service neither checks nor downloads. -/
  resting : u.remote.remoteState ≠ .checking ∧ u.remote.remoteState ≠ .downloading

/-- The services when the check of a URL has been admitted. -/
def requested (url : String) (u : Services) : Services :=
  { u with
    remote := { u.remote with
      manifestUrl := trim url, baseUrl := "", lastError := "", remoteState := .idle
      workerTask := some 0 }
    worker := some .check }

/-- A check of a valid URL is admitted. -/
theorem Ready.requestCheck (hu : Ready u)
    (hvalid : RemoteTransfer.validManifestUrl fw.profile (trim url) = true) :
    operate fw u (.requestCheck url true) = requested url u := by
  have hadmitted : RemoteWorkers.requestCheck true (trim url) u.remote =
      ({ u.remote with
        manifestUrl := trim url, baseUrl := "", lastError := "", remoteState := .idle },
        .ok ()) := by
    unfold RemoteWorkers.requestCheck
    rw [if_neg (by decide), if_neg]
    rintro (htask | hchecking | hdownloading)
    · exact htask hu.free
    · exact hu.resting.1 hchecking
    · exact hu.resting.2 hdownloading
  unfold operate
  rw [if_neg (by simp [hu.running])]
  simp only [perform, hvalid, if_true, hadmitted, Services.start]
  unfold startWorker
  rw [if_neg (by decide), if_neg (by simp [hu.free]), if_neg (by decide)]
  rfl

/-- The services when the apply has been admitted. -/
def accepted (u : Services) : Services :=
  { u with remote := { u.remote with workerTask := some 0 }, worker := some .apply }

end ProjEsp32.ReleaseInstallation
