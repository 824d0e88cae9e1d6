import ProjEsp32.JsonStrings
import ProjEsp32.PolicyUrls

/-!
# The error texts of the workers

A worker of the remote update ends with an error text that is put together from
words of the source and from decimal numbers. None of them has a character that
a JSON string would have to escape.
-/

namespace ProjEsp32.ErrorTexts

open ArduinoJson CheckedResult FirmwarePackageVerifier FirmwareUpdate JsonStrings PolicyUrls
open RemoteTransfer

variable {α : Type}

/-! ### Fetching -/

/-- The errors of the transport are legible. -/
theorem beginHttp_legible (profile : BuildProfile) (begins : Bool) (url : String) :
    RefusesWith IsLegible (beginHttp profile begins url) := by
  have hall : ∀ text ∈ transportErrors, IsLegible text := by decide
  exact .imp hall (beginHttp_refuses profile begins url)

/-- The fetch of a text reports its refusal in a legible text. -/
theorem fetchText_legible (profile : BuildProfile) (reply : Reply) (body url : String)
    (maxBytes : ℕ) : RefusesWith IsLegible (fetchText profile reply body url maxBytes) := by
  unfold fetchText
  refine (beginHttp_legible profile reply.begins url).bind fun _ => ?_
  refine (refusesWith_refuseIf (.append (by decide) (isLegible_int _))).bind fun _ => ?_
  refine (refusesWith_refuseIf (by decide)).bind fun _ => ?_
  refine (refusesWith_refuseIf (by decide)).bind fun _ => ?_
  exact refusesWith_ok _

/-- The error that a worker body ends with, if it does, satisfies the predicate. -/
def EndsWith {ρ : Type} (P : String → Prop) (progress : Progress ρ) : Prop :=
  ∀ result, progress = .ended result → RefusesWith P result

/-- A loop that still waits has reported no error. -/
theorem endsWith_waiting {ρ : Type} (P : String → Prop) : EndsWith P (.waiting : Progress ρ) :=
  fun _ hended => by cases hended

/-- A loop that has ended reports what its result reports. -/
theorem endsWith_ended {ρ : Type} {P : String → Prop} {result : Except String ρ}
    (h : RefusesWith P result) : EndsWith P (.ended result) := by
  intro other hended
  cases hended
  exact h

/-- The fetch of the signature reports its refusal in a legible text. -/
theorem fetchSignatureBase64_legible (profile : BuildProfile)
    (base64Encode : List UInt8 → Option String) (reply : Reply) (url : String) :
    EndsWith IsLegible (fetchSignatureBase64 profile base64Encode reply url) := by
  have hstarted : RefusesWith IsLegible (do
      beginHttp profile reply.begins url
      refuseIf (reply.code != HTTP_CODE_OK) ("signature_http_status_" ++ toString reply.code)
      refuseIf (reply.contentLength ≤ 0 || (MAX_SIGNATURE_BYTES : Int) < reply.contentLength)
        "signature_size_invalid"
      return reply.contentLength.toNat : Except String ℕ) := by
    refine (beginHttp_legible profile reply.begins url).bind fun _ => ?_
    refine (refusesWith_refuseIf (.append (by decide) (isLegible_int _))).bind fun _ => ?_
    refine (refusesWith_refuseIf (by decide)).bind fun _ => ?_
    exact refusesWith_ok _
  unfold fetchSignatureBase64
  dsimp only
  split
  · rename_i error herror
    exact endsWith_ended (refusesWith_error (hstarted error herror))
  · split
    · exact endsWith_waiting _
    · refine endsWith_ended ?_
      refine (refusesWith_refuseIf (by decide)).bind fun _ => ?_
      refine (refusesWith_orRefuse (by decide)).bind fun _ => ?_
      refine (refusesWith_refuseIf (by decide)).bind fun _ => ?_
      exact refusesWith_ok _

/-! ### Installing -/

/-- A failed update reports the reason that it records. -/
theorem failWith_refuses {P : String → Prop} {reason : String} (p : Platform) (s : Updater)
    (h : P reason) : RefusesWith P (failWith p reason s).2 := refusesWith_error h

/-- A package is refused with one of the texts of the manifest's checks. -/
theorem prepare_refuses (lib : JsonLibrary α) (crypto : Crypto) (identity : FirmwareIdentity)
    (callsSucceed : Bool) (manifest signature : String) :
    RefusesWith (· ∈ manifestErrors)
      (prepare lib crypto identity callsSucceed manifest signature).2 := by
  unfold prepare
  split
  · exact refusesWith_ok _
  · rename_i error herror
    exact refusesWith_error (checkManifest_refuses _ _ _ _ _ _ error herror)

/-- The updater reports the refusal of a package in a legible text. -/
theorem preparePackage_legible (fw : Firmware α) (p : Platform) (manifest signature : String)
    (s : Updater) : RefusesWith IsLegible (preparePackage fw p manifest signature s).2 := by
  have hmanifest : ∀ text ∈ manifestErrors, IsLegible text := by decide
  unfold preparePackage
  split
  · exact refusesWith_error (by decide)
  · split
    · rename_i error hprepare
      have herror := prepare_refuses fw.json fw.crypto fw.profile.identity p.manifestHashes manifest
        signature error (congrArg Prod.snd hprepare)
      exact refusesWith_error (hmanifest error herror)
    · split
      · exact refusesWith_error (by decide)
      · exact refusesWith_ok _

/-- The updater reports a refused start in a legible text. -/
theorem beginPreparedInstall_legible (p : Platform) (s : Updater) :
    RefusesWith IsLegible (beginPreparedInstall p s).2 := by
  unfold beginPreparedInstall
  dsimp only
  split
  · exact failWith_refuses p _ (by decide)
  split
  · exact failWith_refuses p _ (by decide)
  split
  · exact failWith_refuses p _ (by decide)
  split
  · exact failWith_refuses p _ (.append (by decide) (isLegible_nat _))
  · exact refusesWith_ok _

/-- The updater reports a refused chunk in a legible text. -/
theorem writePreparedChunk_legible (p : Platform) (data : List UInt8) (s : Updater) :
    RefusesWith IsLegible (writePreparedChunk p data s).2 := by
  unfold writePreparedChunk
  split
  · exact refusesWith_error (by decide)
  split
  · exact failWith_refuses p _ (by decide)
  split
  · exact refusesWith_ok _
  split
  · exact failWith_refuses p _ (by decide)
  dsimp only
  split
  · exact failWith_refuses p _ (.append (by decide) (isLegible_nat _))
  · exact refusesWith_ok _

/-- The updater reports a refused end in a legible text. -/
theorem finishPreparedInstall_legible (crypto : Crypto) (p : Platform) (s : Updater) :
    RefusesWith IsLegible (finishPreparedInstall crypto p s).2 := by
  unfold finishPreparedInstall
  split
  · exact refusesWith_error (by decide)
  dsimp only
  split
  · exact failWith_refuses p _ (by decide)
  split
  · exact failWith_refuses p _ (by decide)
  split
  · exact failWith_refuses p _ (by decide)
  split
  · exact failWith_refuses p _ (.append (by decide) (isLegible_nat _))
  · exact refusesWith_ok _

/-! ### The workers -/

/-- A check worker ends with a legible error. -/
theorem checkWorkerBody_legible (fw : Firmware α) (inputs : CheckInputs) (url : String)
    (s : Updater) : EndsWith IsLegible (checkWorkerBody fw inputs url s).2 := by
  have hwifi : RefusesWith IsLegible (refuseIf (!inputs.wifiConnected) "wifi_not_connected") :=
    refusesWith_refuseIf (by decide)
  unfold checkWorkerBody
  dsimp only
  split
  · rename_i error herror
    refine endsWith_ended (refusesWith_error (hwifi.bind (fun _ => ?_) error herror))
    split
    · rename_i error herror
      exact refusesWith_error (.append (by decide) (fetchText_legible _ _ _ _ _ error herror))
    · exact refusesWith_ok _
  split
  · exact endsWith_ended (refusesWith_error (by decide))
  split
  · exact endsWith_waiting _
  · rename_i error hsignature
    have herror := fetchSignatureBase64_legible _ _ _ _ _ hsignature error rfl
    exact endsWith_ended (refusesWith_error herror)
  split
  · rename_i error hprepare
    have herror := preparePackage_legible _ _ _ _ _ error (congrArg Prod.snd hprepare)
    exact endsWith_ended (refusesWith_error (.append (by decide) herror))
  · exact endsWith_ended (refusesWith_ok _)

/-- The download loop ends with a legible error text, by induction on its turns. -/
theorem downloadLoop_legible (expectedSize : ℕ) (polls : List Poll) (total lastProgress : ℕ)
    (s : Updater) {t : Updater} {count : ℕ} {error : String}
    (h : downloadLoop expectedSize polls total lastProgress s = (t, some (count, error))) :
    IsLegible error := by
  have hempty : IsLegible "" := by decide
  induction polls generalizing total lastProgress s with
  | nil =>
    unfold downloadLoop at h
    split at h
    · cases h
      exact hempty
    · cases h
  | cons poll polls ih =>
    by_cases hdone : expectedSize ≤ total
    · rw [downloadLoop_of_le hdone] at h
      cases h
      exact hempty
    · cases downloadLoop_turn hdone lastProgress poll polls s with
      | leaves text htext hloop =>
        have hlegible : ∀ text ∈ ["", "firmware_read_timeout", "firmware_read_failed"],
            IsLegible text := by
          decide
        cases hloop.symm.trans h
        exact hlegible error htext
      | waits hloop => exact ih _ _ _ (hloop.symm.trans h)
      | refused hlength hwrite hloop =>
        cases hloop.symm.trans h
        exact writePreparedChunk_legible _ _ _ error (congrArg Prod.snd hwrite)
      | taken hlength hwrite hloop => exact ih _ _ _ (hloop.symm.trans h)

/-- An apply worker ends with a legible error. -/
theorem applyWorkerBody_legible (fw : Firmware α) (inputs : ApplyInputs) (localBase : String)
    (s : Updater) : EndsWith IsLegible (applyWorkerBody fw inputs localBase s).2 := by
  have hstarts (expected : Metadata) :
      RefusesWith IsLegible (applyWorkerStarts fw.profile inputs localBase expected) := by
    have hanswer : RefusesWith IsLegible (do
        refuseIf (inputs.firmware.code != HTTP_CODE_OK)
          ("firmware_http_status_" ++ toString inputs.firmware.code)
        refuseIf (inputs.firmware.contentLength ≤ 0 ||
          inputs.firmware.contentLength.toNat != expected.size)
          "firmware_content_length_mismatch" : Except String Unit) := by
      refine (refusesWith_refuseIf (.append (by decide) (isLegible_int _))).bind fun _ => ?_
      exact refusesWith_refuseIf (by decide)
    unfold applyWorkerStarts
    refine (refusesWith_refuseIf (by decide)).bind fun _ => ?_
    split
    · rename_i error herror
      refine RefusesWith.bind (refusesWith_error ?_) fun _ => hanswer
      exact .append (by decide) (beginHttp_legible _ _ _ error herror)
    · exact hanswer
  unfold applyWorkerBody
  dsimp only
  split
  · rename_i error herror
    exact endsWith_ended (refusesWith_error (hstarts _ error herror))
  split
  · rename_i error hbegin
    have herror := beginPreparedInstall_legible _ _ error (congrArg Prod.snd hbegin)
    exact endsWith_ended (refusesWith_error (.append (by decide) herror))
  split
  · exact endsWith_waiting _
  rename_i error hloop
  split
  · exact endsWith_ended (refusesWith_error (downloadLoop_legible _ _ _ _ _ hloop))
  split
  · exact endsWith_ended (refusesWith_error (by decide))
  split
  · rename_i error hfinish
    have herror := finishPreparedInstall_legible _ _ _ error (congrArg Prod.snd hfinish)
    exact endsWith_ended (refusesWith_error (.append (by decide) herror))
  · exact endsWith_ended (refusesWith_ok _)

end ProjEsp32.ErrorTexts
