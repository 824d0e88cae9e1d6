import ProjEsp32.PolledReads
import ProjEsp32.UploadSessions

/-!
# The loops of the two downloads

The signature and the firmware are read by two loops that poll the stream in the same
way, into a buffer that is declared for the signature and chunk by chunk into the update
for the firmware. Both are the polled reads of the library, so that they end whatever
the stream does, stay within their buffers, and hand on what the stream delivered.
-/

namespace ProjEsp32.DownloadLoops

open CheckedResult FirmwarePackageVerifier PolledReads RemoteTransfer
open FirmwareUpdate hiding Outcome
open FirmwareUpdateRuns (sampleDevice samplePrepared)
open UploadSessions (writePreparedChunk_device)

variable {α σ : Type}

/-- A turn of a download loop. -/
def turnOf (poll : Poll) : Turn UInt8 Platform where
  available := poll.available
  connected := poll.connected
  clock := poll.clock
  stream := poll.stream
  context := poll.platform

/-- The turns of a request. -/
def turnsOf (reply : Reply) : List (Turn UInt8 Platform) := reply.polls.map turnOf

/-- The loop of `fetchSignatureBase64`; what is missing is all that limits a read. -/
def signatureLoop (declaredLength : ℕ) : Loop UInt8 String (List UInt8) Platform :=
  collect declaredLength declaredLength HTTP_TIMEOUT_MS

/-- The loop of `applyWorker`. -/
def firmwareLoop (expectedSize : ℕ) : Loop UInt8 String Updater Platform where
  size := expectedSize
  chunk := DOWNLOAD_CHUNK_BYTES
  timeout := HTTP_TIMEOUT_MS
  consume := writePreparedChunk

/-- The error text with which a loop ends; none while it waits. -/
def errorText : Ending String → Option String
  | .complete => some ""
  | .disconnected => some ""
  | .timedOut => some "firmware_read_timeout"
  | .shortRead => some "firmware_read_failed"
  | .refused error => some error
  | .waiting => none

/-- What `fetchSignatureBase64` has of an outcome: the bytes, unless it waits. -/
def signatureResult (out : PolledReads.Outcome UInt8 String (List UInt8)) : Option (List UInt8) :=
  (errorText out.ending).map fun _ => out.state

/-- What `applyWorker` has of an outcome: the bytes written and the error text. -/
def firmwareResult (out : PolledReads.Outcome UInt8 String Updater) :
    Updater × Option (ℕ × String) :=
  (out.state, (errorText out.ending).map fun error => (out.total, error))

/-! ### The loops of the model -/

variable {declaredLength expectedSize total : ℕ} {poll : Poll} {collected : List UInt8}

/-- A turn without bytes, of a loop with the timeout of the requests. -/
theorem run_waits {loop : Loop UInt8 String σ Platform} (htimeout : loop.timeout = HTTP_TIMEOUT_MS)
    (hless : total < loop.size) (hidle : poll.available ≤ 0) (turns : List (Turn UInt8 Platform))
    (lastProgress : ℕ) (state : σ) :
    loop.run (turnOf poll::turns) total lastProgress state =
      if !poll.connected then ⟨state, total, [], [], .disconnected⟩
      else if poll.timedOut lastProgress then ⟨state, total, [], [], .timedOut⟩
      else loop.run turns total lastProgress state := by
  have htimedOut : (poll.timedOut lastProgress = true) =
      (HTTP_TIMEOUT_MS < (turnOf poll).elapsed lastProgress) := decide_eq_true_eq
  rw [run_idle hless (show (turnOf poll).idle from hidle), htimeout]
  simp only [htimedOut]
  rfl

/-- The read of a turn of the signature loop. -/
theorem signatureLoop_read (declaredLength : ℕ) (poll : Poll) (offset : ℕ) :
    ((signatureLoop declaredLength).read (turnOf poll) offset).bytes =
      poll.read (declaredLength - offset) := by
  have hwanted : min declaredLength (declaredLength - offset) = declaredLength - offset :=
    Nat.min_eq_right (Nat.sub_le _ _)
  change poll.stream.take
    (min poll.available.toNat (min declaredLength (declaredLength - offset))) = _
  rw [hwanted]
  rfl

/-- The signature loop with bytes missing and a turn to take. -/
theorem readSignature_cons (hmore : ¬declaredLength ≤ collected.length) (poll : Poll)
    (polls : List Poll) (lastProgress : ℕ) :
    readSignature declaredLength (poll::polls) collected lastProgress =
      if poll.available ≤ 0 then
        if !poll.connected || poll.timedOut lastProgress then some collected
        else readSignature declaredLength polls collected lastProgress
      else
        let read := poll.read (declaredLength - collected.length)
        if read = [] then some collected
        else readSignature declaredLength polls (collected ++ read) (poll.clock % 2^32) := by
  rw [readSignature]
  exact if_neg hmore

/-- The read loop of the signature is the polled loop that collects. -/
theorem readSignature_eq (polls : List Poll) (lastProgress : ℕ) (collected : List UInt8) :
    readSignature declaredLength polls collected lastProgress =
      signatureResult ((signatureLoop declaredLength).run (polls.map turnOf) collected.length
        lastProgress collected) := by
  induction polls generalizing lastProgress collected with
  | nil =>
    unfold readSignature
    by_cases hcomplete : declaredLength ≤ collected.length
    · rw [if_pos hcomplete, run_of_le hcomplete]
      rfl
    · rw [if_neg hcomplete, List.map_nil, run_nil (Nat.not_le.mp hcomplete)]
      rfl
  | cons poll polls ih =>
    rw [List.map_cons]
    by_cases hcomplete : declaredLength ≤ collected.length
    · rw [run_of_le hcomplete]
      unfold readSignature
      exact if_pos hcomplete
    · have hless : collected.length < (signatureLoop declaredLength).size := Nat.not_le.mp hcomplete
      rw [readSignature_cons hcomplete]
      by_cases hidle : poll.available ≤ 0
      · rw [if_pos hidle, run_waits rfl hless hidle]
        by_cases hlost : (!poll.connected) = true
        · rw [if_pos (by rw [hlost, Bool.true_or]), if_pos hlost]
          rfl
        · rw [if_neg hlost]
          by_cases htimedOut : poll.timedOut lastProgress = true
          · rw [if_pos (by rw [htimedOut, Bool.or_true]), if_pos htimedOut]
            rfl
          · rw [if_neg (by simp [hlost, htimedOut]), if_neg htimedOut]
            exact ih lastProgress collected
      · have hturn : ¬(turnOf poll).idle := hidle
        have hread := signatureLoop_read declaredLength poll collected.length
        rw [if_neg hidle]
        dsimp only
        rw [← hread]
        by_cases hbytes : ((signatureLoop declaredLength).read (turnOf poll)
            collected.length).bytes = []
        · rw [if_pos hbytes, run_short hless hturn hbytes]
          rfl
        · rw [if_neg hbytes, run_taken hless hturn hbytes _ _ rfl, ih, List.length_append]
          rfl

/-- The download loop is the polled loop that hands its chunks to the update. -/
theorem downloadLoop_eq (polls : List Poll) (total lastProgress : ℕ) (s : Updater) :
    downloadLoop expectedSize polls total lastProgress s =
      firmwareResult ((firmwareLoop expectedSize).run (polls.map turnOf) total lastProgress s) := by
  induction polls generalizing total lastProgress s with
  | nil =>
    by_cases hcomplete : expectedSize ≤ total
    · rw [downloadLoop_of_le hcomplete, run_of_le hcomplete]
      rfl
    · rw [downloadLoop_nil hcomplete, List.map_nil, run_nil (Nat.not_le.mp hcomplete)]
      rfl
  | cons poll polls ih =>
    rw [List.map_cons]
    by_cases hcomplete : expectedSize ≤ total
    · rw [downloadLoop_of_le hcomplete, run_of_le hcomplete]
      rfl
    · have hless : total < (firmwareLoop expectedSize).size := Nat.not_le.mp hcomplete
      rw [downloadLoop_cons hcomplete]
      dsimp only
      by_cases hidle : poll.available ≤ 0
      · rw [if_pos hidle, run_waits rfl hless hidle]
        by_cases hlost : (!poll.connected) = true
        · rw [if_pos hlost, if_pos hlost]
          rfl
        · rw [if_neg hlost, if_neg hlost]
          by_cases htimedOut : poll.timedOut lastProgress = true
          · rw [if_pos htimedOut, if_pos htimedOut]
            rfl
          · rw [if_neg htimedOut, if_neg htimedOut]
            exact ih total lastProgress s
      · have hturn : ¬(turnOf poll).idle := hidle
        have hread : poll.read (min DOWNLOAD_CHUNK_BYTES (expectedSize - total)) =
          ((firmwareLoop expectedSize).read (turnOf poll) total).bytes := rfl
        rw [if_neg hidle, hread]
        by_cases hbytes : ((firmwareLoop expectedSize).read (turnOf poll) total).bytes = []
        · rw [if_pos hbytes, run_short hless hturn hbytes]
          rfl
        · rw [if_neg hbytes]
          cases hconsume : writePreparedChunk poll.platform
              ((firmwareLoop expectedSize).read (turnOf poll) total).bytes s with
          | mk after answer =>
            cases answer with
            | error error =>
              rw [run_refused hless hturn hbytes _ _ hconsume]
              rfl
            | ok _ =>
              rw [run_taken hless hturn hbytes _ _ hconsume]
              exact ih _ _ after

/-- The update keeps in the flash what it takes, and all or nothing of a chunk that it
refuses. -/
theorem firmwareLoop_keeps (expectedSize : ℕ) :
    Keeps (firmwareLoop expectedSize) (·.device.written) where
  taken := by
    intro platform bytes s after hbytes hconsume
    change writePreparedChunk platform bytes s = _ at hconsume
    rcases writePreparedChunk_cases platform bytes s with ⟨_, hidle⟩ | ⟨_, hempty, _⟩ |
      ⟨_, _, _, _, _, htaken⟩ | ⟨_, hgives⟩
    · rw [hidle] at hconsume
      cases hconsume
    · exact absurd hempty hbytes
    · rw [htaken] at hconsume
      cases hconsume
      rfl
    · obtain ⟨text, hrefused⟩ := hgives.error
      rw [hconsume] at hrefused
      cases hrefused
  refused := by
    intro platform bytes s after error hconsume
    have hdevice := writePreparedChunk_device platform bytes s
    change writePreparedChunk platform bytes s = _ at hconsume
    rw [hconsume] at hdevice
    dsimp only at hdevice
    rw [hdevice]
    split
    · exact ⟨bytes, List.prefix_rfl, rfl⟩
    · exact ⟨[], List.nil_prefix, (List.append_nil _).symm⟩

/-! ### The two requests -/

/-- The loop of `fetchSignatureBase64` from its beginning. -/
def signatureRun (declaredLength : ℕ) (reply : Reply) :
    PolledReads.Outcome UInt8 String (List UInt8) :=
  (signatureLoop declaredLength).run (turnsOf reply) 0 (reply.clock % 2^32) []

/-- The loop of `applyWorker` from its beginning. -/
def firmwareRun (expectedSize : ℕ) (reply : Reply) (s : Updater) :
    PolledReads.Outcome UInt8 String Updater :=
  (firmwareLoop expectedSize).run (turnsOf reply) 0 (reply.clock % 2^32) s

/-- The tests of `fetchSignatureBase64` in front of its loop: the declared length. -/
def signatureStarts (profile : BuildProfile) (reply : Reply) (url : String) : Except String ℕ := do
  beginHttp profile reply.begins url
  refuseIf (reply.code != HTTP_CODE_OK) ("signature_http_status_" ++ toString reply.code)
  refuseIf (reply.contentLength ≤ 0 || (MAX_SIGNATURE_BYTES : Int) < reply.contentLength)
    "signature_size_invalid"
  return reply.contentLength.toNat

/-- What the signature loop reads stays within its buffer of `MAX_SIGNATURE_BYTES`, and
what it has collected is what the stream delivered. -/
structure SignatureRead (declaredLength : ℕ) (reply : Reply) : Prop where
  /-- The declared length fits into the buffer. -/
  declared : declaredLength ≤ MAX_SIGNATURE_BYTES
  /-- The loop of the model is the polled read. -/
  loop : readSignature declaredLength reply.polls [] (reply.clock % 2^32) =
    signatureResult (signatureRun declaredLength reply)
  /-- Each read stays inside of what is declared. -/
  exact : Exact (signatureLoop declaredLength) 0 (signatureRun declaredLength reply)
  /-- What is collected is what was delivered, in order. -/
  collected : (signatureRun declaredLength reply).state =
    delivered (signatureRun declaredLength reply).reads
  /-- It is what the buffer holds then. -/
  buffer : ∀ signature : List UInt8, signature.length = MAX_SIGNATURE_BYTES →
    (fill signature (signatureRun declaredLength reply).reads).take
        (signatureRun declaredLength reply).state.length =
      (signatureRun declaredLength reply).state

/-- What the download loop reads stays within its buffer of `DOWNLOAD_CHUNK_BYTES`, what
it hands to the update is what the stream delivered, and the flash has a front of it. -/
structure FirmwareRead (expectedSize : ℕ) (reply : Reply) (s : Updater) : Prop where
  /-- The loop of the model is the polled read. -/
  loop : downloadLoop expectedSize reply.polls 0 (reply.clock % 2^32) s =
    firmwareResult (firmwareRun expectedSize reply s)
  /-- Each read stays inside of what is expected. -/
  exact : Exact (firmwareLoop expectedSize) 0 (firmwareRun expectedSize reply s)
  /-- The flash has got a front of what was delivered. -/
  written : Kept (firmwareLoop expectedSize) (·.device.written) s (firmwareRun expectedSize reply s)

/-- The declared length of an accepted reply. -/
theorem signatureStarts_ok {profile : BuildProfile} {reply : Reply} {url : String}
    (h : signatureStarts profile reply url = .ok declaredLength) :
    declaredLength = reply.contentLength.toNat ∧ declaredLength ≤ MAX_SIGNATURE_BYTES := by
  simp only [signatureStarts, bind_eq_ok, refuseIf_eq_ok, Bool.or_eq_false_iff,
    decide_eq_false_iff_not] at h
  obtain ⟨_, _, _, _, _, ⟨_, hmost⟩, hlength⟩ := h
  cases hlength
  refine ⟨rfl, ?_⟩
  omega

/-- The fetch is its tests, its loop, and the encoder. -/
theorem fetchSignatureBase64_eq (profile : BuildProfile)
    (base64Encode : List UInt8 → Option String) (reply : Reply) (url : String) :
    fetchSignatureBase64 profile base64Encode reply url =
      match signatureStarts profile reply url with
      | .error error => .ended (.error error)
      | .ok declaredLength =>
        match signatureResult (signatureRun declaredLength reply) with
        | none => .waiting
        | some signature =>
          .ended do
            refuseIf (signature.length != declaredLength) "signature_read_incomplete"
            let encoded ← orRefuse (base64Encode signature) "signature_base64_encode_failed"
            refuseIf (encoded.length == 0 || 256 ≤ encoded.length)
              "signature_base64_encode_failed"
            return encoded := by
  have hloop : ∀ declaredLength, readSignature declaredLength reply.polls []
      (reply.clock % 2^32) = signatureResult (signatureRun declaredLength reply) :=
    fun declaredLength => readSignature_eq reply.polls _ []
  simp only [← hloop]
  rfl

/-- Every fetch whose tests pass. -/
theorem signatureRead {profile : BuildProfile} {reply : Reply} {url : String}
    (h : signatureStarts profile reply url = .ok declaredLength) :
    SignatureRead declaredLength reply := by
  have hdeclared := (signatureStarts_ok h).2
  have hexact : Exact (signatureLoop declaredLength) 0 (signatureRun declaredLength reply) :=
    run_exact _ _ _ _ (Nat.zero_le _)
  have hcollected : (signatureRun declaredLength reply).state =
      delivered (signatureRun declaredLength reply).reads :=
    collect_run _ _ _ _ [] (Nat.zero_le _)
  refine ⟨hdeclared, readSignature_eq _ _ _, hexact, hcollected, fun signature hsize => ?_⟩
  have hroom : 0 + (delivered (signatureRun declaredLength reply).reads).length ≤
      signature.length := by
    rw [hsize]
    exact Nat.le_trans hexact.length_le hdeclared
  have hfilled := take_fill hexact.contiguous hroom
  rw [hcollected]
  rwa [Nat.zero_add, List.take_zero, List.nil_append] at hfilled

/-- Every download. -/
theorem firmwareRead (expectedSize : ℕ) (reply : Reply) (s : Updater) :
    FirmwareRead expectedSize reply s where
  loop := downloadLoop_eq _ _ _ _
  exact := run_exact _ _ _ _ (Nat.zero_le _)
  written := run_keeps (firmwareLoop_keeps expectedSize) _ _ _ _

/-- A loop with the timeout of the requests ends whatever the stream does. -/
theorem loop_ends (loop : Loop UInt8 String σ Platform) (htimeout : loop.timeout = HTTP_TIMEOUT_MS)
    {reply : Reply} (hpaced : Paced 1000 (turnsOf reply))
    (hlength : loop.size * (HTTP_TIMEOUT_MS + 2) ≤ reply.polls.length) (state : σ) :
    (loop.run (turnsOf reply) 0 (reply.clock % 2^32) state).ending ≠ .waiting := by
  refine run_ends hpaced ?_ (Nat.mod_lt _ (by decide)) ?_
  · rw [htimeout]
    decide
  · rw [htimeout, turnsOf, List.length_map]
    exact hlength

/-- A loop that has ended has an error text. -/
theorem errorText_of_ends {ending : Ending String} (h : ending ≠ .waiting) :
    ∃ text, errorText ending = some text := by
  cases ending with
  | waiting => exact absurd rfl h
  | complete => exact ⟨_, rfl⟩
  | disconnected => exact ⟨_, rfl⟩
  | timedOut => exact ⟨_, rfl⟩
  | shortRead => exact ⟨_, rfl⟩
  | refused error => exact ⟨_, rfl⟩

/-- A body that has ended is not waiting. -/
theorem ended_ne_waiting {ρ : Type} (result : Except String ρ) : Progress.ended result ≠ .waiting :=
  fun hwaiting => by cases hwaiting

/-- The fetch of the signature ends. -/
theorem fetchSignatureBase64_ends {profile : BuildProfile}
    {base64Encode : List UInt8 → Option String} {reply : Reply} {url : String}
    (hpaced : Paced 1000 (turnsOf reply))
    (hlength : reply.contentLength.toNat * (HTTP_TIMEOUT_MS + 2) ≤ reply.polls.length) :
    fetchSignatureBase64 profile base64Encode reply url ≠ .waiting := by
  rw [fetchSignatureBase64_eq]
  cases hstarts : signatureStarts profile reply url with
  | error error => exact ended_ne_waiting _
  | ok declaredLength =>
    rw [← (signatureStarts_ok hstarts).1] at hlength
    obtain ⟨text, htext⟩ := errorText_of_ends
      (loop_ends (signatureLoop declaredLength) rfl hpaced hlength [])
    have hresult : signatureResult (signatureRun declaredLength reply) =
        some (signatureRun declaredLength reply).state := by
      unfold signatureResult signatureRun
      rw [htext]
      rfl
    dsimp only
    rw [hresult]
    exact ended_ne_waiting _

/-- A fetch that succeeds has encoded as many bytes as were declared. -/
theorem fetchSignatureBase64_ok {profile : BuildProfile}
    {base64Encode : List UInt8 → Option String} {reply : Reply} {url encoded : String}
    (h : fetchSignatureBase64 profile base64Encode reply url = .ended (.ok encoded)) :
    ∃ declaredLength, signatureStarts profile reply url = .ok declaredLength ∧
      (signatureRun declaredLength reply).state.length = declaredLength ∧
      base64Encode (signatureRun declaredLength reply).state = some encoded := by
  rw [fetchSignatureBase64_eq] at h
  cases hstarts : signatureStarts profile reply url with
  | error error =>
    rw [hstarts] at h
    cases h
  | ok declaredLength =>
    rw [hstarts] at h
    dsimp only at h
    cases hresult : signatureResult (signatureRun declaredLength reply) with
    | none =>
      rw [hresult] at h
      cases h
    | some signature =>
      rw [hresult] at h
      obtain ⟨_, _, rfl⟩ := Option.map_eq_some_iff.mp hresult
      have hok := Progress.ended.inj h
      simp only [bind_eq_ok, refuseIf_eq_ok, orRefuse_eq_ok, bne_eq_false_iff_eq] at hok
      obtain ⟨_, hlength, _, hencoded, _, _, hpure⟩ := hok
      cases hpure
      exact ⟨declaredLength, rfl, hlength, hencoded⟩

/-- What `applyWorker` does behind its loop. -/
def afterDownload (fw : Firmware α) (inputs : ApplyInputs) (expectedSize : ℕ) :
    Updater × Option (ℕ × String) → Updater × Progress Unit
  | (s, none) => (s, .waiting)
  | (s, some (total, error)) =>
    if error.length != 0 then (s, .ended (.error error))
    else if total != expectedSize then (s, .ended (.error "firmware_read_incomplete"))
    else
      match finishPreparedInstall fw.crypto inputs.finishing s with
      | (s, .error error) => (s, .ended (.error ("install_finish_" ++ error)))
      | (s, .ok _) => (s, .ended (.ok ()))

/-- The worker is stopped by a test, or it opens a session and goes through its loop. -/
theorem applyWorkerBody_cases (fw : Firmware α) (inputs : ApplyInputs) (localBase : String)
    (s : Updater) :
    (∃ t error, applyWorkerBody fw inputs localBase s = (t, .ended (.error error))) ∨
    ∃ opened, beginPreparedInstall inputs.opening s = (opened, .ok ()) ∧
      applyWorkerBody fw inputs localBase s = afterDownload fw inputs s.preparedMetadata.size
        (firmwareResult (firmwareRun s.preparedMetadata.size inputs.firmware opened)) := by
  unfold applyWorkerBody
  dsimp only
  cases applyWorkerStarts fw.profile inputs localBase s.preparedMetadata with
  | error error => exact .inl ⟨s, error, rfl⟩
  | ok _ =>
    cases beginPreparedInstall inputs.opening s with
    | mk opened answer =>
      cases answer with
      | error error => exact .inl ⟨opened, "install_begin_" ++ error, rfl⟩
      | ok _ =>
        refine .inr ⟨opened, rfl, ?_⟩
        rw [← (firmwareRead _ _ _).loop]
        rfl

/-- The download of the firmware ends. -/
theorem applyWorkerBody_ends (fw : Firmware α) {inputs : ApplyInputs} (localBase : String)
    {s : Updater} (hpaced : Paced 1000 (turnsOf inputs.firmware))
    (hlength : s.preparedMetadata.size * (HTTP_TIMEOUT_MS + 2) ≤ inputs.firmware.polls.length) :
    (applyWorkerBody fw inputs localBase s).2 ≠ .waiting := by
  rcases applyWorkerBody_cases fw inputs localBase s with ⟨t, error, hstopped⟩ |
    ⟨opened, _, hbody⟩
  · rw [hstopped]
    exact ended_ne_waiting _
  · obtain ⟨text, htext⟩ := errorText_of_ends
      (loop_ends (firmwareLoop s.preparedMetadata.size) rfl hpaced hlength opened)
    rw [hbody, firmwareResult, firmwareRun, htext]
    dsimp only [Option.map_some, afterDownload]
    split
    · exact ended_ne_waiting _
    · split
      · exact ended_ne_waiting _
      · split
        · exact ended_ne_waiting _
        · exact ended_ne_waiting _

/-- A finish that succeeds leaves the flash alone. -/
theorem finishPreparedInstall_device {crypto : Crypto} {platform : Platform} {s t : Updater}
    (h : finishPreparedInstall crypto platform s = (t, .ok ())) : t.device = s.device := by
  rcases finishPreparedInstall_cases crypto platform s with ⟨_, hidle⟩ | ⟨_, _, hsealed⟩ |
    ⟨_, hgives⟩
  · rw [hidle] at h
    cases h
  · rw [hsealed] at h
    cases h
    rfl
  · obtain ⟨text, hrefused⟩ := hgives.error
    rw [h] at hrefused
    cases hrefused

/-- A download that succeeds has opened a session, counted the whole image and left in
the flash what its loop has written. -/
theorem applyWorkerBody_ok {fw : Firmware α} {inputs : ApplyInputs} {localBase : String}
    {s t : Updater} (h : applyWorkerBody fw inputs localBase s = (t, .ended (.ok ()))) :
    ∃ opened, beginPreparedInstall inputs.opening s = (opened, .ok ()) ∧
      (firmwareRun s.preparedMetadata.size inputs.firmware opened).total =
        s.preparedMetadata.size ∧
      t.device = (firmwareRun s.preparedMetadata.size inputs.firmware opened).state.device := by
  rcases applyWorkerBody_cases fw inputs localBase s with ⟨_, error, hstopped⟩ |
    ⟨opened, hopened, hbody⟩
  · rw [hstopped] at h
    cases h
  · refine ⟨opened, hopened, ?_⟩
    rw [hbody, firmwareResult] at h
    cases htext : errorText (firmwareRun s.preparedMetadata.size inputs.firmware opened).ending with
    | none =>
      rw [htext] at h
      cases h
    | some text =>
      rw [htext] at h
      dsimp only [Option.map_some, afterDownload] at h
      split at h
      · cases h
      · split at h
        · cases h
        · rename_i htotal
          refine ⟨by simpa using htotal, ?_⟩
          split at h
          · cases h
          · rename_i hfinished
            cases h
            exact finishPreparedInstall_device hfinished

/-- A download that has counted the whole image has handed on as many bytes, and the
flash has them. -/
theorem FirmwareRead.of_total {expectedSize : ℕ} {reply : Reply} {s : Updater}
    (h : FirmwareRead expectedSize reply s)
    (htotal : (firmwareRun expectedSize reply s).total = expectedSize) :
    (firmwareRun expectedSize reply s).handed.flatten.length = expectedSize ∧
      (firmwareRun expectedSize reply s).state.device.written =
        s.device.written ++ (firmwareRun expectedSize reply s).handed.flatten := by
  have hcomplete := h.exact.complete.mpr htotal
  constructor
  · rcases h.exact.total with ⟨error, hrefused⟩ | hdelivered
    · rw [hcomplete] at hrefused
      cases hrefused
    · rw [h.exact.handed, ← Nat.zero_add (delivered _).length, ← hdelivered, htotal]
  · rcases h.written.all with ⟨_, _, _, error, hrefused, _⟩ | hkept
    · rw [hcomplete] at hrefused
      cases hrefused
    · exact hkept

/-- Both download loops end, whatever the stream does and wherever the clock stands, as
long as each wait takes 1 to 1000 ms; their reads stay within their buffers; what they
collect or hand to the update is what the stream delivered, no more than is declared; and
they succeed only with all of it, which the flash then has. -/
theorem downloads_exact (fw : Firmware α) :
    (∀ base64Encode reply url,
      (Paced 1000 (turnsOf reply) →
        reply.contentLength.toNat * (HTTP_TIMEOUT_MS + 2) ≤ reply.polls.length →
        fetchSignatureBase64 fw.profile base64Encode reply url ≠ .waiting) ∧
      (∀ declaredLength, signatureStarts fw.profile reply url = .ok declaredLength →
        SignatureRead declaredLength reply) ∧
      ∀ encoded, fetchSignatureBase64 fw.profile base64Encode reply url = .ended (.ok encoded) →
        ∃ declaredLength, signatureStarts fw.profile reply url = .ok declaredLength ∧
          (signatureRun declaredLength reply).state.length = declaredLength ∧
          base64Encode (signatureRun declaredLength reply).state = some encoded) ∧
    ∀ inputs localBase s,
      (Paced 1000 (turnsOf inputs.firmware) →
        s.preparedMetadata.size * (HTTP_TIMEOUT_MS + 2) ≤ inputs.firmware.polls.length →
        (applyWorkerBody fw inputs localBase s).2 ≠ .waiting) ∧
      (∀ opened, beginPreparedInstall inputs.opening s = (opened, .ok ()) →
        FirmwareRead s.preparedMetadata.size inputs.firmware opened) ∧
      ∀ t, applyWorkerBody fw inputs localBase s = (t, .ended (.ok ())) →
        ∃ opened, beginPreparedInstall inputs.opening s = (opened, .ok ()) ∧
          (firmwareRun s.preparedMetadata.size inputs.firmware opened).handed.flatten.length =
            s.preparedMetadata.size ∧
          (firmwareRun s.preparedMetadata.size inputs.firmware opened).state.device.written =
            opened.device.written ++
              (firmwareRun s.preparedMetadata.size inputs.firmware opened).handed.flatten ∧
          t.device.written =
            opened.device.written ++
              (firmwareRun s.preparedMetadata.size inputs.firmware opened).handed.flatten := by
  refine ⟨fun base64Encode reply url => ?_, fun inputs localBase s => ?_⟩
  · exact ⟨fetchSignatureBase64_ends, fun _ => signatureRead, fun _ => fetchSignatureBase64_ok⟩
  · refine ⟨applyWorkerBody_ends fw localBase, fun opened _ => firmwareRead _ _ _, fun t h => ?_⟩
    obtain ⟨opened, hopened, htotal, hdevice⟩ := applyWorkerBody_ok h
    obtain ⟨hlength, hwritten⟩ := (firmwareRead _ _ _).of_total htotal
    refine ⟨opened, hopened, hlength, hwritten, ?_⟩
    rw [hdevice]
    exact hwritten

/-- Three bytes in two parts, with a wait between them over which the clock wraps. -/
def slowReply : Reply where
  contentLength := 3
  polls := [{ available := 2, stream := [1, 2], clock := 2^32 - 2 }, { clock := 2^32 - 1 },
    { clock := 2^32 + 4 }, { available := 9, stream := [3, 4, 5], clock := 2^32 + 5 }]

example : Paced 1000 (turnsOf slowReply) := by decide

example : readSignature 3 slowReply.polls [] 0 = some [1, 2, 3] := by decide

/-- Two bytes, one after the other. -/
def slowDownload : ApplyInputs where
  firmware := { contentLength := 2, polls := [{ available := 1, stream := [0xe9], clock := 1 },
    { clock := 2 }, { available := 1, stream := [0x01], clock := 3 }] }

/-- The download of a prepared package succeeds, and the flash has its two bytes. -/
example :
    let applied := applyWorkerBody sampleDevice slowDownload "https://updates.local/" samplePrepared
    applied.2 = .ended (.ok ()) ∧ applied.1.device.written = [0xe9, 0x01] := by
  decide +kernel

end ProjEsp32.DownloadLoops
