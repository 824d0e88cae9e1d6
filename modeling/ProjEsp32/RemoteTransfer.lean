import ProjEsp32.FirmwareUpdate

/-!
# Fetching manifest, signature and firmware

The worker bodies of the remote update, between their locked sections: what
they fetch and which calls of the update service they make. The network is
whatever answers it gives, one `Poll` for each turn of a download loop; a loop
that has turns left to take when the polls run out is still waiting.
-/

namespace ProjEsp32.RemoteTransfer

open ArduinoText ArduinoJson CheckedResult FirmwarePackageVerifier FirmwareUpdate

variable {α : Type}

/-- How long a download waits for the next byte. -/
def HTTP_TIMEOUT_MS : ℕ := 10000

/-- The greatest length of a manifest. -/
def MAX_MANIFEST_BYTES : ℕ := 2048

/-- The greatest length of a signature. -/
def MAX_SIGNATURE_BYTES : ℕ := 128

/-- How much of a firmware is read at once. -/
def DOWNLOAD_CHUNK_BYTES : ℕ := 4096

/-- The status of a reply that is read. -/
def HTTP_CODE_OK : Int := 200

/-- Accepted manifest URLs: HTTPS, or HTTP in lab images. -/
def validManifestUrl (profile : BuildProfile) (url : String) : Bool :=
  if url.length < 16 || 384 < url.length || !endsWith url "/manifest.json" then false
  else if startsWith url "https://" then true
  else profile.ALLOW_HTTP && startsWith url "http://"

/-- `String::lastIndexOf`; none where the source returns -1. -/
def lastIndexOf (text : String) (c : Char) : Option ℕ :=
  let back := text.toList.reverse.idxOf c
  if back < text.length then some (text.length - 1 - back) else none

/-- The URL up to and including its last slash. -/
def deriveBaseUrl (url : String) : String :=
  match lastIndexOf url '/' with
  | some slash => if 7 < slash then String.ofList (url.toList.take (slash + 1)) else ""
  | none => ""

/-- Choose the transport; `begins` is the answer of `http.begin`. -/
def beginHttp (profile : BuildProfile) (begins : Bool) (url : String) : Except String Unit :=
  if startsWith url "https://" then refuseIf (!begins) "https_begin_failed"
  else do
    refuseIf (!profile.ALLOW_HTTP) "http_not_allowed"
    refuseIf (!begins) "http_begin_failed"

/-- What one turn of a download loop sees. -/
structure Poll where
  /-- `stream->available()`. -/
  available : Int := 0
  /-- `http.connected()`. -/
  connected : Bool := true
  /-- Milliseconds since boot. -/
  clock : ℕ := 0
  /-- The bytes that the stream is ready to deliver to `readBytes`. -/
  stream : List UInt8 := []
  /-- The platform during the write of this turn. -/
  platform : Platform := {}

/-- The stream has been silent for longer than the timeout, in 32-bit time. -/
def Poll.timedOut (poll : Poll) (lastProgress : ℕ) : Bool :=
  HTTP_TIMEOUT_MS < (poll.clock % 2^32 + 2^32 - lastProgress) % 2^32

/-- The bytes that this turn reads when it may ask for at most `limit`. -/
def Poll.read (poll : Poll) (limit : ℕ) : List UInt8 :=
  poll.stream.take (min poll.available.toNat limit)

/-- How a worker body ends, if it has ended. -/
inductive Progress (ρ : Type) where
  /-- It is still in a loop. -/
  | waiting
  /-- It has returned. -/
  | ended (result : Except String ρ)
  deriving DecidableEq

/-- The answers to one GET request that is read in a loop. -/
structure Reply where
  /-- `http.begin`. -/
  begins : Bool := true
  /-- `http.GET()`. -/
  code : Int := HTTP_CODE_OK
  /-- `http.getSize()`. -/
  contentLength : Int := 0
  /-- Milliseconds since boot when the loop starts. -/
  clock : ℕ := 0
  /-- The turns of the loop. -/
  polls : List Poll := []

/-- `fetchText`: the whole body at once, within the limit. -/
def fetchText (profile : BuildProfile) (reply : Reply) (body url : String) (maxBytes : ℕ) :
    Except String String := do
  beginHttp profile reply.begins url
  refuseIf (reply.code != HTTP_CODE_OK) ("http_status_" ++ toString reply.code)
  refuseIf (0 < reply.contentLength && maxBytes < reply.contentLength.toNat) "response_too_large"
  refuseIf (body.length == 0 || maxBytes < body.length) "response_size_invalid"
  return body

/-- The read loop of `fetchSignatureBase64`: the bytes collected when it ends. -/
def readSignature (declaredLength : ℕ) : List Poll → List UInt8 → ℕ → Option (List UInt8)
  | polls, collected, lastProgress =>
    if declaredLength ≤ collected.length then some collected
    else
      match polls with
      | [] => none
      | poll::polls =>
        if poll.available ≤ 0 then
          if !poll.connected || poll.timedOut lastProgress then some collected
          else readSignature declaredLength polls collected lastProgress
        else
          let read := poll.read (declaredLength - collected.length)
          if read = [] then some collected
          else readSignature declaredLength polls (collected ++ read) (poll.clock % 2^32)

/-- `fetchSignatureBase64`; the encoder is third-party code. -/
def fetchSignatureBase64 (profile : BuildProfile) (base64Encode : List UInt8 → Option String)
    (reply : Reply) (url : String) : Progress String :=
  let started : Except String ℕ := do
    beginHttp profile reply.begins url
    refuseIf (reply.code != HTTP_CODE_OK) ("signature_http_status_" ++ toString reply.code)
    refuseIf (reply.contentLength ≤ 0 || (MAX_SIGNATURE_BYTES : Int) < reply.contentLength)
      "signature_size_invalid"
    return reply.contentLength.toNat
  match started with
  | .error error => .ended (.error error)
  | .ok declaredLength =>
    match readSignature declaredLength reply.polls [] (reply.clock % 2^32) with
    | none => .waiting
    | some signature =>
      .ended do
        refuseIf (signature.length != declaredLength) "signature_read_incomplete"
        let encoded ← orRefuse (base64Encode signature) "signature_base64_encode_failed"
        refuseIf (encoded.length == 0 || 256 ≤ encoded.length) "signature_base64_encode_failed"
        return encoded

/-- Everything that a check worker meets on its way. -/
structure CheckInputs where
  /-- The radio is up. -/
  wifiConnected : Bool := true
  /-- The reply with the manifest. -/
  manifest : Reply := {}
  /-- The text that is read of it. -/
  manifestBody : String := ""
  /-- The reply with the signature. -/
  signature : Reply := {}
  /-- Base64 encoding; none is an error code. -/
  base64Encode : List UInt8 → Option String := fun _ => none
  /-- What the update service meets. -/
  platform : Platform := {}

/-- The body of `checkWorker`: the base URL that it will publish, or the
reason of its failure. -/
def checkWorkerBody (fw : Firmware α) (inputs : CheckInputs) (localManifestUrl : String)
    (s : Updater) : Updater × Progress String :=
  let fetched : Except String String := do
    refuseIf (!inputs.wifiConnected) "wifi_not_connected"
    match fetchText fw.profile inputs.manifest inputs.manifestBody localManifestUrl
        MAX_MANIFEST_BYTES with
    | .error error => .error ("manifest_" ++ error)
    | .ok manifest => return manifest
  match fetched with
  | .error error => (s, .ended (.error error))
  | .ok manifest =>
    let localBase := deriveBaseUrl localManifestUrl
    if localBase.length = 0 then (s, .ended (.error "manifest_base_url_invalid"))
    else
      match fetchSignatureBase64 fw.profile inputs.base64Encode inputs.signature
          (localBase ++ "manifest.sig") with
      | .waiting => (s, .waiting)
      | .ended (.error error) => (s, .ended (.error error))
      | .ended (.ok signatureBase64) =>
        match preparePackage fw inputs.platform manifest signatureBase64 s with
        | (s, .error error) => (s, .ended (.error ("prepare_" ++ error)))
        | (s, .ok _) => (s, .ended (.ok localBase))

/-- A check that succeeds has fetched a manifest, prepared its package, and
comes to the base of its URL. -/
theorem checkWorkerBody_ok {fw : Firmware α} {inputs : CheckInputs} {url localBase : String}
    {s t : Updater} (h : checkWorkerBody fw inputs url s = (t, .ended (.ok localBase))) :
    localBase = deriveBaseUrl url ∧ localBase ≠ "" ∧ ∃ signature,
      checkManifest fw.json fw.crypto fw.profile.identity inputs.platform.manifestHashes
        inputs.manifestBody signature = .ok t.preparedMetadata := by
  unfold checkWorkerBody at h
  dsimp only at h
  split at h
  · cases h
  · rename_i manifest hfetched
    have hmanifest : manifest = inputs.manifestBody := by
      simp only [bind_eq_ok, refuseIf_eq_ok] at hfetched
      obtain ⟨_, _, hfetched⟩ := hfetched
      split at hfetched
      · cases hfetched
      · rename_i body hbody
        cases hfetched
        simp only [fetchText, bind_eq_ok, refuseIf_eq_ok] at hbody
        obtain ⟨_, _, _, _, _, _, _, _, hbody⟩ := hbody
        cases hbody
        rfl
    split at h
    · cases h
    · rename_i hbase
      split at h
      · cases h
      · cases h
      · rename_i signature _
        split at h
        · cases h
        · rename_i hprepared
          cases h
          refine ⟨rfl, ?_, signature, ?_⟩
          · intro hempty
            rw [hempty] at hbase
            exact hbase rfl
          · rw [← hmanifest]
            exact preparePackage_ok hprepared

/-- The download loop of `applyWorker`. It ends with the bytes written and the
error text, which is empty after a disconnect. -/
def downloadLoop (expectedSize : ℕ) : List Poll → ℕ → ℕ → Updater → Updater × Option (ℕ × String)
  | polls, total, lastProgress, s =>
    if expectedSize ≤ total then (s, some (total, ""))
    else
      match polls with
      | [] => (s, none)
      | poll::polls =>
        if poll.available ≤ 0 then
          if !poll.connected then (s, some (total, ""))
          else if poll.timedOut lastProgress then (s, some (total, "firmware_read_timeout"))
          else downloadLoop expectedSize polls total lastProgress s
        else
          let read := poll.read (min DOWNLOAD_CHUNK_BYTES (expectedSize - total))
          if read = [] then (s, some (total, "firmware_read_failed"))
          else
            match writePreparedChunk poll.platform read s with
            | (s, .error error) => (s, some (total, error))
            | (s, .ok _) =>
              downloadLoop expectedSize polls (total + read.length) (poll.clock % 2^32) s

section Turns

variable {expectedSize total : ℕ}

/-- A loop that has everything ends. -/
theorem downloadLoop_of_le (h : expectedSize ≤ total) (polls : List Poll) (lastProgress : ℕ)
    (s : Updater) :
    downloadLoop expectedSize polls total lastProgress s = (s, some (total, "")) := by
  unfold downloadLoop
  exact if_pos h

/-- A loop that has not, and no more turns, is waiting. -/
theorem downloadLoop_nil (h : ¬expectedSize ≤ total) (lastProgress : ℕ) (s : Updater) :
    downloadLoop expectedSize [] total lastProgress s = (s, none) := by
  unfold downloadLoop
  exact if_neg h

/-- The loop with bytes missing and a turn to take. -/
theorem downloadLoop_cons (hmore : ¬expectedSize ≤ total) (lastProgress : ℕ) (poll : Poll)
    (polls : List Poll) (s : Updater) :
    downloadLoop expectedSize (poll::polls) total lastProgress s =
      if poll.available ≤ 0 then
        if !poll.connected then (s, some (total, ""))
        else if poll.timedOut lastProgress then (s, some (total, "firmware_read_timeout"))
        else downloadLoop expectedSize polls total lastProgress s
      else
        let read := poll.read (min DOWNLOAD_CHUNK_BYTES (expectedSize - total))
        if read = [] then (s, some (total, "firmware_read_failed"))
        else
          match writePreparedChunk poll.platform read s with
          | (s, .error error) => (s, some (total, error))
          | (s, .ok _) =>
            downloadLoop expectedSize polls (total + read.length) (poll.clock % 2^32) s := by
  rw [downloadLoop]
  exact if_neg hmore

/-- What a turn of the download loop can be: it leaves the loop, waits, or hands a chunk
to the update. -/
inductive DownloadTurn (expectedSize : ℕ) (poll : Poll) (polls : List Poll)
    (total lastProgress : ℕ) (s : Updater) (out : Updater × Option (ℕ × String)) : Prop
  | leaves (error : String)
      (herror : error ∈ ["", "firmware_read_timeout", "firmware_read_failed"])
      (h : out = (s, some (total, error)))
  | waits (h : out = downloadLoop expectedSize polls total lastProgress s)
  | refused {read : List UInt8} {t : Updater} {error : String}
      (hlength : read.length ≤ DOWNLOAD_CHUNK_BYTES)
      (hwrite : writePreparedChunk poll.platform read s = (t, .error error))
      (h : out = (t, some (total, error)))
  | taken {read : List UInt8} {t : Updater} (hlength : read.length ≤ DOWNLOAD_CHUNK_BYTES)
      (hwrite : writePreparedChunk poll.platform read s = (t, .ok ()))
      (h : out =
        downloadLoop expectedSize polls (total + read.length) (poll.clock % 2^32) t)

/-- The first turn of a loop with bytes missing. -/
theorem downloadLoop_turn (hmore : ¬expectedSize ≤ total) (lastProgress : ℕ) (poll : Poll)
    (polls : List Poll) (s : Updater) :
    DownloadTurn expectedSize poll polls total lastProgress s
      (downloadLoop expectedSize (poll::polls) total lastProgress s) := by
  have hlength : (poll.read (min DOWNLOAD_CHUNK_BYTES (expectedSize - total))).length ≤
      DOWNLOAD_CHUNK_BYTES := by
    simp only [Poll.read, List.length_take]
    omega
  rw [downloadLoop_cons hmore]
  dsimp only
  split
  · split
    · exact .leaves _ (by simp) rfl
    · split
      · exact .leaves _ (by simp) rfl
      · exact .waits rfl
  · split
    · exact .leaves _ (by simp) rfl
    · cases hwrite : writePreparedChunk poll.platform
        (poll.read (min DOWNLOAD_CHUNK_BYTES (expectedSize - total))) s with
      | mk t answer =>
        cases answer with
        | error error => exact .refused hlength hwrite rfl
        | ok _ => exact .taken hlength hwrite rfl

end Turns

/-- Everything that an apply worker meets on its way. -/
structure ApplyInputs where
  /-- The radio is up. -/
  wifiConnected : Bool := true
  /-- The reply with the firmware. -/
  firmware : Reply := {}
  /-- The platform while the session is opened. -/
  opening : Platform := {}
  /-- The platform while the image is finished. -/
  finishing : Platform := {}

/-- The tests of `applyWorker` before it opens a session. -/
def applyWorkerStarts (profile : BuildProfile) (inputs : ApplyInputs) (localBase : String)
    (expected : Metadata) : Except String Unit := do
  refuseIf (!inputs.wifiConnected) "wifi_not_connected"
  match beginHttp profile inputs.firmware.begins (localBase ++ "firmware.bin") with
  | .error error => .error ("firmware_" ++ error)
  | .ok _ => pure ()
  refuseIf (inputs.firmware.code != HTTP_CODE_OK)
    ("firmware_http_status_" ++ toString inputs.firmware.code)
  refuseIf (inputs.firmware.contentLength ≤ 0 ||
    inputs.firmware.contentLength.toNat != expected.size) "firmware_content_length_mismatch"

/-- The body of `applyWorker`, up to its last locked section. -/
def applyWorkerBody (fw : Firmware α) (inputs : ApplyInputs) (localBase : String) (s : Updater) :
    Updater × Progress Unit :=
  let expected := s.preparedMetadata
  match applyWorkerStarts fw.profile inputs localBase expected with
  | .error error => (s, .ended (.error error))
  | .ok _ =>
    match beginPreparedInstall inputs.opening s with
    | (s, .error error) => (s, .ended (.error ("install_begin_" ++ error)))
    | (s, .ok _) =>
      match downloadLoop expected.size inputs.firmware.polls 0 (inputs.firmware.clock % 2^32) s with
      | (s, none) => (s, .waiting)
      | (s, some (total, error)) =>
        if error.length != 0 then (s, .ended (.error error))
        else if total != expected.size then (s, .ended (.error "firmware_read_incomplete"))
        else
          match finishPreparedInstall fw.crypto inputs.finishing s with
          | (s, .error error) => (s, .ended (.error ("install_finish_" ++ error)))
          | (s, .ok _) => (s, .ended (.ok ()))

/-! ### The base of a manifest URL -/

/-- A URL that ends with the manifest has its last slash in front of it. -/
theorem exists_front {url : String} (h : endsWith url "/manifest.json" = true) :
    ∃ front, url.toList = front ++ '/'::"manifest.json".toList ∧
      lastIndexOf url '/' = some front.length := by
  obtain ⟨front, hfront⟩ := List.isSuffixOf_iff_suffix.mp h
  have hlist : url.toList = front ++ '/'::"manifest.json".toList := hfront.symm
  refine ⟨front, hlist, ?_⟩
  have hlength : url.length = front.length + 14 := by
    rw [← String.length_toList, hlist]
    simp
  have hback : url.toList.reverse.idxOf '/' = 13 := by
    rw [hlist]
    simp
  simp only [lastIndexOf, hback, hlength]
  rw [if_pos (by omega)]
  congr 1

/-- The base of such a URL is what stands in front of the manifest, unless its
last slash is in the scheme. -/
theorem deriveBaseUrl_eq {url : String} {front : List Char}
    (hurl : url.toList = front ++ '/'::"manifest.json".toList)
    (hslash : lastIndexOf url '/' = some front.length) :
    deriveBaseUrl url = if 7 < front.length then String.ofList (front ++ ['/']) else "" := by
  have hsplit : url.toList = (front ++ ['/']) ++ "manifest.json".toList := by simp [hurl]
  have htake : url.toList.take (front.length + 1) = front ++ ['/'] := by
    rw [hsplit, List.take_left' (by simp)]
  unfold deriveBaseUrl
  rw [hslash]
  dsimp only
  rw [htake]

/-- The base of a manifest URL, if there is one, is all but the file name. -/
theorem deriveBaseUrl_append {url : String} (hending : endsWith url "/manifest.json" = true)
    (hbase : deriveBaseUrl url ≠ "") : deriveBaseUrl url ++ "manifest.json" = url := by
  obtain ⟨front, hurl, hslash⟩ := exists_front hending
  have heq := deriveBaseUrl_eq hurl hslash
  rw [heq] at hbase ⊢
  split
  · rw [← String.toList_inj, String.toList_append, String.toList_ofList, hurl]
    simp
  · rename_i hshort
    rw [if_neg hshort] at hbase
    exact absurd rfl hbase

/-- A valid manifest URL ends with the name of the manifest. -/
theorem endsWith_of_validManifestUrl {profile : BuildProfile} {url : String}
    (h : validManifestUrl profile url = true) : endsWith url "/manifest.json" = true := by
  unfold validManifestUrl at h
  split at h
  · cases h
  · rename_i hchecks
    simp only [Bool.or_eq_true, Bool.not_eq_true', not_or, Bool.not_eq_false] at hchecks
    exact hchecks.2

end ProjEsp32.RemoteTransfer
