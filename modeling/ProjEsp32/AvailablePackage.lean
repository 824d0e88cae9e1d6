import ProjEsp32.FirmwareUpdateRuns
import ProjEsp32.RemoteWorkers

/-!
# The package behind AVAILABLE

The remote update and the update service as one system of atomic operations.
The remote update keeps the state and the base URL of a check, the update
service keeps the package; the local prepare route writes the second half
without looking at the first.
-/

namespace ProjEsp32.AvailablePackage

open ArduinoText ArduinoJson CheckedResult FirmwarePackageVerifier FirmwareUpdate RemoteTransfer
open RemoteWorkers TransitionRuns
open FirmwareUpdateRuns (sampleDevice samplePrepared sample_preparePackage)

variable {α : Type}

/-- What a check has fetched. -/
structure Checked where
  /-- The manifest that was read. -/
  url : String
  /-- Its text. -/
  manifest : String
  deriving DecidableEq

/-- The two services, with the worker that is waiting to run and a record of the
last check that was published; no operation reads the record. -/
structure Services where
  /-- The update service. -/
  updater : Updater
  /-- The remote update service. -/
  remote : Remote := {}
  /-- The worker under way, if there is one. -/
  worker : Option WorkerKind := none
  /-- The last check that ended well. -/
  checked : Option Checked := none
  deriving DecidableEq

/-- One operation, from its beginning to its end. -/
inductive Operation where
  | requestCheck (requestedUrl : String) (created : Bool)
  | checkWorker (inputs : CheckInputs)
  | requestApply (created : Bool)
  | applyWorker (inputs : ApplyInputs)
  | postPrepare (p : Platform) (manifest signature : Option String)
  | upload (p : Platform) (index : ℕ) (data : List UInt8) (final : Bool)
  | tick (p : Platform) (criticalStorageReady : Bool)

/-- `startWorker`, and `setFailed` when it is refused; there is one worker at a
time, so that its handle may be any. -/
def Services.start (u : Services) (kind : WorkerKind) (created : Bool) (remote : Remote) :
    Services :=
  match startWorker true created 0 remote with
  | (remote, .ok _) => { u with remote, worker := some kind }
  | (remote, .error error) => { u with remote := setFailed true error remote }

/-- `checkWorker` from its first section to its last one. One that waits for the
network is not heard of again. -/
def runCheck (fw : Firmware α) (inputs : CheckInputs) (u : Services) : Services :=
  match checkWorkerEntry true u.remote with
  | (remote, none) => { u with remote, worker := none }
  | (remote, some source) =>
    match checkWorkerBody fw inputs source u.updater with
    | (updater, .waiting) => { u with updater, remote, worker := none }
    | (updater, .ended (.error error)) =>
      { u with updater, remote := setFailed true error remote, worker := none }
    | (updater, .ended (.ok localBase)) =>
      { updater, remote := checkWorkerPublish true localBase remote
        checked := some { url := source, manifest := inputs.manifestBody } }

/-- `applyWorker` from its first section to its last one. -/
def runApply (fw : Firmware α) (inputs : ApplyInputs) (u : Services) : Services :=
  match applyWorkerEntry true u.remote with
  | (remote, none) => { u with remote, worker := none }
  | (remote, some localBase) =>
    match applyWorkerBody fw inputs localBase u.updater with
    | (updater, .waiting) => { u with updater, remote, worker := none }
    | (updater, .ended (.error error)) =>
      { u with updater, remote := setFailed true error remote, worker := none }
    | (updater, .ended (.ok _)) =>
      { u with updater, remote := finishWorker true .idle remote, worker := none }

/-- What one operation does while the device runs. -/
def perform (fw : Firmware α) (u : Services) : Operation → Services
  | .requestCheck requestedUrl created =>
    if validManifestUrl fw.profile (trim requestedUrl) then
      match RemoteWorkers.requestCheck true (trim requestedUrl) u.remote with
      | (remote, .ok _) => u.start .check created remote
      | (remote, .error _) => { u with remote }
    else u
  | .checkWorker inputs => if u.worker = some .check then runCheck fw inputs u else u
  | .requestApply created =>
    match RemoteWorkers.requestApply true u.remote with
    | (remote, .ok _) => u.start .apply created remote
    | (remote, .error _) => { u with remote }
  | .applyWorker inputs => if u.worker = some .apply then runApply fw inputs u else u
  | .postPrepare p manifest signature =>
    { u with updater := FirmwareUpdate.postPrepare fw p manifest signature u.updater }
  | .upload p index data final =>
    { u with updater := FirmwareUpdate.upload fw.crypto p index data final u.updater }
  | .tick p ready => { u with updater := FirmwareUpdate.tick fw.profile p ready u.updater }

/-- One operation; a restarted device takes none in this boot. -/
def operate (fw : Firmware α) (u : Services) (taken : Operation) : Services :=
  if u.updater.device.restarted then u else perform fw u taken

/-- The two services after a boot. -/
def boot (p : Platform) (runningPendingVerify criticalStorageReady : Bool) : Services :=
  { updater := FirmwareUpdate.boot p runningPendingVerify criticalStorageReady }

/-- The metadata that a manifest describes. -/
def manifestMetadata (lib : JsonLibrary α) (manifestJson : String) : Option Metadata := do
  let document ← lib.deserializeJson 1024 manifestJson
  let sha256Hex := (document.member "sha256").orCStr ""
  let sha256 ← parseSha256 sha256Hex
  return { valid := true
           schema := (document.member "schema").asUInt 32
           hardwareRevision := (document.member "hardware_revision").asUInt 16
           build := (document.member "build").asUInt 32
           size := (document.member "size").asUInt 32
           model := (document.member "model").orCStr ""
           version := (document.member "version").orCStr ""
           channel := (document.member "channel").orCStr ""
           sha256Hex
           sha256 }

/-- While the remote update is AVAILABLE the prepared package is the one of the
manifest that the last check fetched, from the base URL that was published. -/
def AvailableIsPrepared (fw : Firmware α) (u : Services) : Prop :=
  u.remote.remoteState = .available → u.updater.preparedMetadata.valid = true ∧
    ∃ checked, u.checked = some checked ∧ checked.url = u.remote.baseUrl ++ "manifest.json" ∧
      manifestMetadata fw.json checked.manifest = some u.updater.preparedMetadata

/-- A manifest that passes describes the metadata that are stored. -/
theorem checkManifest_metadata {lib : JsonLibrary α} {crypto : Crypto}
    {identity : FirmwareIdentity} {callsSucceed : Bool} {manifest signature : String}
    {metadata : Metadata}
    (h : checkManifest lib crypto identity callsSucceed manifest signature = .ok metadata) :
    metadata.valid = true ∧ manifestMetadata lib manifest = some metadata := by
  simp only [checkManifest, bind_eq_ok, refuseIf_eq_ok, orRefuse_eq_ok] at h
  obtain ⟨_, _, _, _, document, hdocument, _, _, _, _, _, _, _, _, _, _, _, _, _, _, _, _, _, _,
    digest, hdigest, hmetadata⟩ := h
  cases hmetadata
  refine ⟨rfl, ?_⟩
  simp [manifestMetadata, hdocument, hdigest]

/-- What `preparePackage` stores where it may. -/
def storedMetadata (fw : Firmware α) (p : Platform) (manifest signature : String) : Metadata :=
  match checkManifest fw.json fw.crypto fw.profile.identity p.manifestHashes manifest
      signature with
  | .ok metadata => if packageFits p metadata then metadata else clear
  | .error _ => clear

/-- A package that may be prepared leaves the metadata that it stores. -/
theorem preparePackage_metadata (fw : Firmware α) (p : Platform) (manifest signature : String)
    {s : Updater} (h : canPreparePackage s = true) :
    (preparePackage fw p manifest signature s).1.preparedMetadata =
      storedMetadata fw p manifest signature := by
  unfold preparePackage storedMetadata prepare
  simp only [h, Bool.not_true, Bool.false_eq_true, if_false]
  cases checkManifest fw.json fw.crypto fw.profile.identity p.manifestHashes manifest signature with
  | error error => rfl
  | ok metadata =>
    dsimp only
    cases packageFits p metadata <;> rfl

variable {fw : Firmware α} {u : Services}

/-- Where state, base and package stay, what is available stays prepared. -/
theorem AvailableIsPrepared.of_eq {t : Services} (h : AvailableIsPrepared fw u)
    (hstate : t.remote.remoteState = u.remote.remoteState)
    (hbase : t.remote.baseUrl = u.remote.baseUrl) (hchecked : t.checked = u.checked)
    (hpackage : t.updater.preparedMetadata = u.updater.preparedMetadata) :
    AvailableIsPrepared fw t := by
  unfold AvailableIsPrepared
  rw [hstate, hbase, hchecked, hpackage]
  exact h

end ProjEsp32.AvailablePackage
