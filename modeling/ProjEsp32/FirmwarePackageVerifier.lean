import ProjEsp32.ArduinoJson
import ProjEsp32.CheckedResult

/-!
# Signed firmware packages

The manifest check that stands before every installation: signature over the
exact manifest bytes, JSON fields, and the applicability tests against the
identity of the running firmware. Base64 decoding, SHA-256, signature
verification and JSON parsing are third-party code and enter as parameters.
-/

namespace ProjEsp32.FirmwarePackageVerifier

open ArduinoText ArduinoJson CheckedResult

variable {α : Type}

/-- What the running image was compiled with. Test and release profiles
override the defaults. -/
structure FirmwareIdentity where
  /-- Hardware family that a package must name. -/
  MODEL : String := "proj-esp32-35"
  /-- Hardware revision that a package must name. -/
  HARDWARE_REVISION : ℕ := 1
  /-- Monotonic build; a package must be newer. -/
  BUILD : ℕ := 42
  /-- Release channel that a package must name. -/
  CHANNEL : String := "dev"

/-- The embedded public key for update manifests. -/
def PUBLIC_KEY_PEM : String :=
  "-----BEGIN PUBLIC KEY-----\n" ++
  "MFkwEwYHKoZIzj0CAQYIKoZIzj0DAQcDQgAE5lcKI4aBFMjURcN/cLtIuWxYPeyO\n" ++
  "+NEnSlJlSYCsGzAwXb+9/JKzxoGTuiS4ONAoQIhbYtcJ6mRUPUAIS+rAyg==\n" ++
  "-----END PUBLIC KEY-----\n"

/-- The cryptographic library, third-party code. -/
structure Crypto where
  /-- Base64 decoding into the 128-byte signature buffer; none is an error code. -/
  base64Decode : String → Option (List UInt8)
  /-- The digest of a byte string. -/
  sha256 : List UInt8 → List UInt8
  /-- Key parsing and verification of a signature over a digest both return zero. -/
  verifies : (publicKey : String) → (hash signature : List UInt8) → Bool

/-- The package that the last accepted manifest describes. -/
structure Metadata where
  /-- A manifest has been accepted. -/
  valid : Bool := false
  /-- The version of the manifest's own form. -/
  schema : ℕ := 0
  /-- The hardware that the image is for. -/
  hardwareRevision : ℕ := 0
  /-- The build number. -/
  build : ℕ := 0
  /-- The bytes of the image. -/
  size : ℕ := 0
  /-- The model that the image is for. -/
  model : String := ""
  /-- The version, for people. -/
  version : String := ""
  /-- The channel that it is offered on. -/
  channel : String := ""
  /-- The digest of the image, in hexadecimal digits. -/
  sha256Hex : String := ""
  /-- Its bytes. -/
  sha256 : List UInt8 := List.replicate 32 0
  deriving DecidableEq

/-- A non-empty C string of bounded length over letters, digits and `._-+`. -/
def safeToken (value : String) (maxLength : ℕ) : Bool :=
  value.length != 0 && value.length ≤ maxLength &&
    value.toList.all fun c => isalnum c || c == '.' || c == '_' || c == '-' || c == '+'

/-- The value of one hexadecimal digit; none where the source returns -1. -/
def hexNibble (c : Char) : Option ℕ :=
  if '0' ≤ c ∧ c ≤ '9' then some (c.toNat - '0'.toNat)
  else if 'a' ≤ c ∧ c ≤ 'f' then some (c.toNat - 'a'.toNat + 10)
  else if 'A' ≤ c ∧ c ≤ 'F' then some (c.toNat - 'A'.toNat + 10)
  else none

/-- Bytes of a digit list, two digits for each byte. -/
def hexBytes : List Char → Option (List UInt8)
  | [] => some []
  | [_] => none
  | high::low::rest => do
    let h ← hexNibble high
    let l ← hexNibble low
    let tail ← hexBytes rest
    return (16*h + l).toUInt8::tail

/-- Exactly 64 digits give the 32 expected bytes. -/
def parseSha256 (value : String) : Option (List UInt8) :=
  if value.length = 64 then hexBytes value.toList else none

/-- One-shot SHA-256; any failing call of the hash library gives no digest. -/
def sha256Bytes (crypto : Crypto) (callsSucceed : Bool) (data : List UInt8) :
    Option (List UInt8) :=
  if callsSucceed then some (crypto.sha256 data) else none

/-- The signature must decode and verify over the digest of the manifest. -/
def verifySignature (crypto : Crypto) (callsSucceed : Bool)
    (manifestJson signatureBase64 : String) : Except String Unit := do
  let encoded := trim signatureBase64
  refuseIf (encoded.length == 0 || 192 < encoded.length) "signature_encoding_invalid"
  let signature ← orRefuse (crypto.base64Decode encoded) "signature_base64_invalid"
  refuseIf (signature.length == 0) "signature_base64_invalid"
  let manifestHash ←
    orRefuse (sha256Bytes crypto callsSucceed (bytes manifestJson)) "manifest_hash_failed"
  refuseIf (!crypto.verifies PUBLIC_KEY_PEM manifestHash signature) "manifest_signature_invalid"

/-- Every field that the manifest must carry, with its type. -/
def manifestFields (document : Json α) : Bool :=
  (document.member "schema").isUInt 32 && (document.member "model").isCStr &&
    (document.member "hardware_revision").isUInt 16 && (document.member "version").isCStr &&
    (document.member "build").isUInt 32 && (document.member "channel").isCStr &&
    (document.member "size").isUInt 32 && (document.member "sha256").isCStr &&
    (document.member "file").isCStr

/-- The checks of `prepare`, in the order of the source, up to the metadata
that it stores. -/
def checkManifest (lib : JsonLibrary α) (crypto : Crypto) (identity : FirmwareIdentity)
    (callsSucceed : Bool) (manifestJson signatureBase64 : String) : Except String Metadata := do
  refuseIf (manifestJson.length == 0 || 2048 < manifestJson.length) "manifest_size_invalid"
  verifySignature crypto callsSucceed manifestJson signatureBase64
  let document ← orRefuse (lib.deserializeJson 1024 manifestJson) "manifest_json_invalid"
  refuseIf (!manifestFields document) "manifest_fields_invalid"
  let schema := (document.member "schema").asUInt 32
  let model := (document.member "model").orCStr ""
  let hardwareRevision := (document.member "hardware_revision").asUInt 16
  let version := (document.member "version").orCStr ""
  let build := (document.member "build").asUInt 32
  let channel := (document.member "channel").orCStr ""
  let size := (document.member "size").asUInt 32
  let sha256Hex := (document.member "sha256").orCStr ""
  let file := (document.member "file").orCStr ""
  refuseIf (schema != 1) "manifest_schema_unsupported"
  refuseIf (model != identity.MODEL) "manifest_model_mismatch"
  refuseIf (hardwareRevision != identity.HARDWARE_REVISION) "manifest_hardware_mismatch"
  refuseIf (!safeToken version 48) "manifest_version_invalid"
  refuseIf (build ≤ identity.BUILD) "manifest_build_not_newer"
  refuseIf (channel != identity.CHANNEL) "manifest_channel_mismatch"
  refuseIf (size == 0) "manifest_firmware_size_invalid"
  refuseIf (file != "firmware.bin") "manifest_file_invalid"
  let expectedHash ← orRefuse (parseSha256 sha256Hex) "manifest_sha256_invalid"
  return { valid := true, schema, hardwareRevision, build, size, model, version, channel,
           sha256Hex, sha256 := expectedHash }

/-- `clear` resets the stored metadata. -/
def clear : Metadata := {}

/-- `prepare` clears the old package first, so a refusal leaves none behind. -/
def prepare (lib : JsonLibrary α) (crypto : Crypto) (identity : FirmwareIdentity)
    (callsSucceed : Bool) (manifestJson signatureBase64 : String) :
    Metadata × Except String Unit :=
  match checkManifest lib crypto identity callsSucceed manifestJson signatureBase64 with
  | .ok metadata => (metadata, .ok ())
  | .error error => (clear, .error error)

/-- What an accepted manifest has been checked for. The document is the one
the library reads from exactly these manifest bytes. -/
structure Verified (lib : JsonLibrary α) (crypto : Crypto) (identity : FirmwareIdentity)
    (manifestJson signatureBase64 : String) (metadata : Metadata) : Prop where
  /-- The trusted key verifies the signature over the digest of the manifest. -/
  signature : ∃ raw, crypto.base64Decode (trim signatureBase64) = some raw ∧
    crypto.verifies PUBLIC_KEY_PEM (crypto.sha256 (bytes manifestJson)) raw = true
  /-- Size, digest text and the other fields are those of the signed document. -/
  fields : ∃ document, lib.deserializeJson 1024 manifestJson = some document ∧
    metadata.size = (document.member "size").asUInt 32 ∧
    metadata.build = (document.member "build").asUInt 32 ∧
    metadata.model = (document.member "model").orCStr "" ∧
    metadata.hardwareRevision = (document.member "hardware_revision").asUInt 16 ∧
    metadata.channel = (document.member "channel").orCStr "" ∧
    metadata.sha256Hex = (document.member "sha256").orCStr ""
  /-- The manifest has the schema that is known. -/
  schema : metadata.schema = 1
  /-- It is for this model. -/
  model : metadata.model = identity.MODEL
  /-- And for this revision of the hardware. -/
  hardware : metadata.hardwareRevision = identity.HARDWARE_REVISION
  /-- On the channel of the device. -/
  channel : metadata.channel = identity.CHANNEL
  /-- The build is a later one. -/
  build : identity.BUILD < metadata.build
  /-- The version is a safe token. -/
  version : safeToken metadata.version 48 = true
  /-- The image is not empty. -/
  size : 0 < metadata.size
  /-- The digest has been parsed. -/
  digest : parseSha256 metadata.sha256Hex = some metadata.sha256
  /-- The metadata say so. -/
  valid : metadata.valid = true

/-- The size of a verified package is a 32-bit number. -/
theorem Verified.size_lt {lib : JsonLibrary α} {crypto : Crypto} {identity : FirmwareIdentity}
    {manifest signature : String} {metadata : Metadata}
    (h : Verified lib crypto identity manifest signature metadata) : metadata.size < 2^32 := by
  obtain ⟨document, _, hsize, _⟩ := h.fields
  rw [hsize]
  exact Json.asUInt_lt 32 _

/-- An accepted signature is one that the trusted key verifies. -/
theorem verifySignature_ok {crypto : Crypto} {callsSucceed : Bool} {manifestJson signature : String}
    {u : Unit} (h : verifySignature crypto callsSucceed manifestJson signature = .ok u) :
    ∃ raw, crypto.base64Decode (trim signature) = some raw ∧
      crypto.verifies PUBLIC_KEY_PEM (crypto.sha256 (bytes manifestJson)) raw = true := by
  simp only [verifySignature, bind_eq_ok, refuseIf_eq_ok, orRefuse_eq_ok] at h
  obtain ⟨_, _, raw, hraw, _, _, hash, hhash, hverify⟩ := h
  refine ⟨raw, hraw, ?_⟩
  cases callsSucceed with
  | false => simp [sha256Bytes] at hhash
  | true =>
    simp only [sha256Bytes, if_true, Option.some.injEq] at hhash
    rw [hhash]
    simpa using hverify

/-- A manifest that passes is verified in every respect. -/
theorem checkManifest_ok {lib : JsonLibrary α} {crypto : Crypto} {identity : FirmwareIdentity}
    {callsSucceed : Bool} {manifestJson signature : String} {metadata : Metadata}
    (h : checkManifest lib crypto identity callsSucceed manifestJson signature = .ok metadata) :
    Verified lib crypto identity manifestJson signature metadata := by
  simp only [checkManifest, bind_eq_ok, refuseIf_eq_ok, orRefuse_eq_ok] at h
  obtain ⟨_, _, _, hsignature, document, hdocument, _, _, _, hschema, _, hmodel, _, hhardware,
    _, hversion, _, hbuild, _, hchannel, _, hsize, _, _, digest, hdigest, hmetadata⟩ := h
  cases hmetadata
  simp only [bne_eq_false_iff_eq, decide_eq_false_iff_not, beq_eq_false_iff_ne,
    Bool.not_eq_false'] at hschema hmodel hhardware hversion hbuild hchannel hsize
  exact
    { signature := verifySignature_ok hsignature
      fields := ⟨document, hdocument, rfl, rfl, rfl, rfl, rfl, rfl⟩
      schema := hschema
      model := hmodel
      hardware := hhardware
      channel := hchannel
      build := Nat.lt_of_not_le hbuild
      version := hversion
      size := Nat.pos_of_ne_zero hsize
      digest := hdigest
      valid := rfl }

/-- The errors of the signature check. -/
def signatureErrors : List String :=
  ["signature_encoding_invalid", "signature_base64_invalid", "manifest_hash_failed",
    "manifest_signature_invalid"]

/-- The errors of `prepare`. -/
def manifestErrors : List String :=
  signatureErrors ++ ["manifest_size_invalid", "manifest_json_invalid", "manifest_fields_invalid",
    "manifest_schema_unsupported", "manifest_model_mismatch", "manifest_hardware_mismatch",
    "manifest_version_invalid", "manifest_build_not_newer", "manifest_channel_mismatch",
    "manifest_firmware_size_invalid", "manifest_file_invalid", "manifest_sha256_invalid"]

/-- A signature is refused with one of the texts of its checks. -/
theorem verifySignature_refuses (crypto : Crypto) (callsSucceed : Bool)
    (manifestJson signature : String) :
    RefusesWith (· ∈ signatureErrors)
      (verifySignature crypto callsSucceed manifestJson signature) := by
  unfold verifySignature
  refine (refusesWith_refuseIf (by decide)).bind fun _ => ?_
  refine (refusesWith_orRefuse (by decide)).bind fun _ => ?_
  refine (refusesWith_refuseIf (by decide)).bind fun _ => ?_
  refine (refusesWith_orRefuse (by decide)).bind fun _ => ?_
  exact refusesWith_refuseIf (by decide)

/-- Every refusal of the manifest has one of these texts. -/
theorem checkManifest_refuses (lib : JsonLibrary α) (crypto : Crypto) (identity : FirmwareIdentity)
    (callsSucceed : Bool) (manifestJson signature : String) :
    RefusesWith (· ∈ manifestErrors)
      (checkManifest lib crypto identity callsSucceed manifestJson signature) := by
  have hsignature : RefusesWith (· ∈ manifestErrors)
      (verifySignature crypto callsSucceed manifestJson signature) :=
    .imp (fun _ h => List.mem_append_left _ h)
      (verifySignature_refuses crypto callsSucceed manifestJson signature)
  unfold checkManifest
  refine (refusesWith_refuseIf (by decide)).bind fun _ => ?_
  refine hsignature.bind fun _ => ?_
  refine (refusesWith_orRefuse (by decide)).bind fun _ => ?_
  refine (refusesWith_refuseIf (by decide)).bind fun _ => ?_
  refine (refusesWith_refuseIf (by decide)).bind fun _ => ?_
  refine (refusesWith_refuseIf (by decide)).bind fun _ => ?_
  refine (refusesWith_refuseIf (by decide)).bind fun _ => ?_
  refine (refusesWith_refuseIf (by decide)).bind fun _ => ?_
  refine (refusesWith_refuseIf (by decide)).bind fun _ => ?_
  refine (refusesWith_refuseIf (by decide)).bind fun _ => ?_
  refine (refusesWith_refuseIf (by decide)).bind fun _ => ?_
  refine (refusesWith_refuseIf (by decide)).bind fun _ => ?_
  refine (refusesWith_orRefuse (by decide)).bind fun _ => ?_
  exact refusesWith_ok _

/-- Two digits for each byte, each byte the value of its two. -/
theorem hexBytes_some {chars : List Char} {digest : List UInt8}
    (h : hexBytes chars = some digest) :
    chars.length = 2*digest.length ∧ ∀ i < digest.length, ∃ high low,
      chars[2*i]?.bind hexNibble = some high ∧ chars[2*i + 1]?.bind hexNibble = some low ∧
        digest[i]? = some (16*high + low).toUInt8 := by
  induction chars using hexBytes.induct generalizing digest with
  | case1 =>
    cases h
    exact ⟨rfl, fun i hi => absurd hi (Nat.not_lt_zero i)⟩
  | case2 _ => cases h
  | case3 first second rest ih =>
    simp only [hexBytes, Option.bind_eq_bind, Option.bind_eq_some_iff] at h
    obtain ⟨high, hhigh, low, hlow, tail, htail, hdigest⟩ := h
    cases hdigest
    obtain ⟨hlength, hbytes⟩ := ih htail
    refine ⟨by simp only [List.length_cons]; omega, fun i hi => ?_⟩
    cases i with
    | zero => exact ⟨high, low, hhigh, hlow, rfl⟩
    | succ i =>
      have hnext := hbytes i (Nat.lt_of_succ_lt_succ hi)
      have hindex : 2*(i + 1) = 2*i + 1 + 1 := by omega
      rw [hindex]
      simpa only [List.getElem?_cons_succ] using hnext

/-- What `prepare` leaves behind is a verified package or none. -/
theorem prepare_package (lib : JsonLibrary α) (crypto : Crypto) (identity : FirmwareIdentity)
    (callsSucceed : Bool) (manifestJson signature : String) :
    (prepare lib crypto identity callsSucceed manifestJson signature).1 = clear ∨
      Verified lib crypto identity manifestJson signature
        (prepare lib crypto identity callsSucceed manifestJson signature).1 := by
  unfold prepare
  split
  · rename_i h
    exact .inr (checkManifest_ok h)
  · exact .inl rfl

/-! ### A sample package

A package of two bytes, with libraries that are tables for it. -/

/-- The firmware of the sample package. -/
def sampleFirmware : List UInt8 := [0xe9, 0x01]

/-- The manifest of the sample package, as the release script prints it. -/
def sampleManifest : String :=
  "\x7b\"build\":43,\"channel\":\"dev\",\"file\":\"firmware.bin\"," ++
  "\"hardware_revision\":1,\"model\":\"proj-esp32-35\",\"schema\":1," ++
  "\"sha256\":\"0ae8e20e8cb2ab612a320158def8b102a5c98998f924309714ffabed53179e18\"," ++
  "\"size\":2,\"version\":\"0.1.2\"\x7d\n"

/-- A JSON library that knows the sample manifest. -/
def sampleJson : JsonLibrary ℕ where
  deserializeJson _ text :=
    if text = sampleManifest then
      some (.obj [("build", .int 43), ("channel", .str "dev"), ("file", .str "firmware.bin"),
        ("hardware_revision", .int 1), ("model", .str "proj-esp32-35"), ("schema", .int 1),
        ("sha256", .str "0ae8e20e8cb2ab612a320158def8b102a5c98998f924309714ffabed53179e18"),
        ("size", .int 2), ("version", .str "0.1.2")])
    else none
  serializeJson _ := ""
  setMember _ document key value := document.withMember key value

/-- The digest of the sample firmware. -/
def sampleFirmwareDigest : List UInt8 :=
  [0x0a, 0xe8, 0xe2, 0x0e, 0x8c, 0xb2, 0xab, 0x61, 0x2a, 0x32, 0x01, 0x58, 0xde, 0xf8, 0xb1, 0x02,
    0xa5, 0xc9, 0x89, 0x98, 0xf9, 0x24, 0x30, 0x97, 0x14, 0xff, 0xab, 0xed, 0x53, 0x17, 0x9e, 0x18]

/-- The digest of the sample manifest. -/
def sampleManifestDigest : List UInt8 :=
  [0xae, 0x85, 0x29, 0x7e, 0x73, 0xa3, 0x12, 0xc1, 0xc4, 0x4d, 0xc8, 0xf5, 0xfe, 0x28, 0x94, 0xd7,
    0x71, 0xe4, 0xa6, 0xf4, 0x69, 0x20, 0xcc, 0x9f, 0x08, 0xf3, 0x22, 0x7a, 0xb0, 0x4c, 0x51, 0x53]

/-- A cryptographic library that knows the two digests and accepts one
signature, which stands for the one of the release key. -/
def sampleCrypto : Crypto where
  base64Decode text := if text = "MAA=" then some [0x30, 0x00] else none
  sha256 data :=
    if data = sampleFirmware then sampleFirmwareDigest
    else if data = bytes sampleManifest then sampleManifestDigest
    else List.replicate 32 0
  verifies publicKey hash signature :=
    publicKey == PUBLIC_KEY_PEM && hash == sampleManifestDigest && signature == [0x30, 0x00]

/-- What the sample manifest says. -/
def sampleMetadata : Metadata where
  valid := true
  schema := 1
  hardwareRevision := 1
  build := 43
  size := 2
  model := "proj-esp32-35"
  version := "0.1.2"
  channel := "dev"
  sha256Hex := "0ae8e20e8cb2ab612a320158def8b102a5c98998f924309714ffabed53179e18"
  sha256 := sampleFirmwareDigest

/-- The sample manifest passes with these metadata. -/
theorem sampleManifest_checked :
    checkManifest sampleJson sampleCrypto {} true sampleManifest "MAA=" = .ok sampleMetadata := by
  decide +kernel

end ProjEsp32.FirmwarePackageVerifier
