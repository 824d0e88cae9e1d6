import ProjEsp32.FirmwareUpdateRuns

/-!
# Transferring an image

What arrives through an install session. However the image is cut into chunks,
it is sealed exactly when its length and digest are those of the manifest. A
remote download that does not get that far leaves the service retryable when
hash or flash refused the image, and stuck in RECEIVING when the stream did.
-/

namespace ProjEsp32.InstallTransfer

open ArduinoJson CheckedResult FirmwarePackageVerifier FirmwareUpdate RemoteTransfer
open FirmwareUpdateRuns TransitionRuns

variable {α : Type}

/-! ### Feeding chunks to a session -/

/-- The calls that write an image, a chunk at a time. -/
def feed (chunks : List (Platform × List UInt8)) : List Call :=
  chunks.map fun chunk => .writePreparedChunk chunk.1 chunk.2

/-- A running device with a session that has taken exactly these bytes. -/
structure Receiving (fw : Firmware α) (s : Updater) (data : List UInt8) : Prop where
  /-- The device has not been restarted. -/
  running : s.device.restarted = false
  /-- The update receives bytes. -/
  state : s.updateState = .receiving
  /-- The hash context is in use. -/
  active : s.uploadHashActive = true
  /-- The flash has got these bytes. -/
  written : s.device.written = data
  /-- Counter, hash and flash agree. -/
  inStep : InStep fw.crypto s

variable {fw : Firmware α} {s : Updater} {data : List UInt8}

/-- The counter of a session is the number of its bytes. -/
theorem Receiving.receivedBytes (h : Receiving fw s data) : s.receivedBytes = data.length := by
  have hcount := (h.inStep.receiving h.state).1
  rw [h.written] at hcount
  exact hcount

/-- A session that has just been opened has taken nothing. -/
theorem receiving_opened {p : Platform} (hopens : opens p s = true) (hsmall : SmallSlot p)
    (hrunning : s.device.restarted = false) : Receiving fw (opened p s) [] := by
  have hstep : InStep fw.crypto (beginPreparedInstall p s).1 := .beginPreparedInstall hsmall
  rw [beginPreparedInstall_ok hopens] at hstep
  exact ⟨hrunning, rfl, rfl, rfl, hstep⟩

/-- A chunk that fits the package is taken. -/
theorem Receiving.chunk_fits (h : Receiving fw s data) {p : Platform} {chunk : List UInt8}
    (hlength : chunk.length ≤ 65536) (htakes : takes p chunk.length = true)
    (hfits : (data ++ chunk).length ≤ s.preparedMetadata.size) :
    Receiving fw (call fw s (.writePreparedChunk p chunk)) (data ++ chunk) ∧
      (call fw s (.writePreparedChunk p chunk)).preparedMetadata = s.preparedMetadata := by
  have hcount := h.receivedBytes
  have hwrap := h.inStep.no_wrap h.state hlength
  have hstep := h.inStep.writePreparedChunk p hlength
  have hmod : (s.receivedBytes + chunk.length) % 2^32 ≤ s.preparedMetadata.size := by
    rw [Nat.mod_eq_of_lt hwrap, hcount, ← List.length_append]
    exact hfits
  simp only [call, h.running, Bool.false_eq_true, if_false, perform]
  by_cases hempty : chunk = []
  · subst hempty
    rw [writePreparedChunk_nil h.state hmod, List.append_nil]
    exact ⟨h, rfl⟩
  · rw [writePreparedChunk_ok h.state hmod h.active hempty htakes] at hstep ⊢
    exact ⟨⟨h.running, h.state, h.active, congrArg (· ++ chunk) h.written, hstep⟩, rfl⟩

/-- A chunk that does not fit ends the update. -/
theorem Receiving.chunk_overflows (h : Receiving fw s data) {p : Platform} {chunk : List UInt8}
    (hlength : chunk.length ≤ 65536)
    (hoverflows : s.preparedMetadata.size < (data ++ chunk).length) :
    GivenUp s (call fw s (.writePreparedChunk p chunk)) := by
  have hcount := h.receivedBytes
  have hwrap := h.inStep.no_wrap h.state hlength
  have hfull : s.preparedMetadata.size < (s.receivedBytes + chunk.length) % 2^32 := by
    rw [Nat.mod_eq_of_lt hwrap, hcount, ← List.length_append]
    exact hoverflows
  simp only [call, h.running, Bool.false_eq_true, if_false, perform]
  exact (writePreparedChunk_givesUp h.state (.inl hfull)).state

/-- Outside of a session no chunk is written. -/
theorem call_write_idle (fw : Firmware α) (p : Platform) (chunk : List UInt8)
    (hstate : s.updateState ≠ .receiving) : call fw s (.writePreparedChunk p chunk) = s := by
  unfold call
  split
  · rfl
  · simp only [perform]
    rw [writePreparedChunk_idle hstate]

/-- Outside of a session no image is finished. -/
theorem call_finish_idle (fw : Firmware α) (p : Platform) (hstate : s.updateState ≠ .receiving) :
    call fw s (.finishPreparedInstall p) = s := by
  unfold call
  split
  · rfl
  · simp only [perform]
    rw [finishPreparedInstall_idle hstate]

/-- Outside of a session feeding does nothing. -/
theorem feed_idle (fw : Firmware α) (hstate : s.updateState ≠ .receiving)
    (chunks : List (Platform × List UInt8)) : run (call fw) s (feed chunks) = s := by
  induction chunks with
  | nil => rfl
  | cons chunk chunks ih =>
    have hcall := call_write_idle fw chunk.1 chunk.2 hstate
    simp only [feed, List.map_cons, run_cons, hcall]
    exact ih

/-- Chunks of a promised length that hash and flash take. -/
def Delivered (chunks : List (Platform × List UInt8)) : Prop :=
  ∀ chunk ∈ chunks, chunk.2.length ≤ 65536 ∧ takes chunk.1 chunk.2.length = true

/-- The image that chunks make up. -/
def image (chunks : List (Platform × List UInt8)) : List UInt8 := (chunks.map Prod.snd).flatten

/-- The image is the first chunk and the image of the rest. -/
theorem image_cons (chunk : Platform × List UInt8) (chunks : List (Platform × List UInt8)) :
    image (chunk::chunks) = chunk.2 ++ image chunks := rfl

/-- Feeding what fits the package adds it to the session, however it is cut. -/
theorem feed_fits {chunks : List (Platform × List UInt8)} (h : Receiving fw s data)
    (hchunks : Delivered chunks) (hfits : (data ++ image chunks).length ≤ s.preparedMetadata.size) :
    Receiving fw (run (call fw) s (feed chunks)) (data ++ image chunks) ∧
      (run (call fw) s (feed chunks)).preparedMetadata = s.preparedMetadata := by
  induction chunks generalizing s data with
  | nil =>
    rw [image, List.map_nil, List.flatten_nil, List.append_nil]
    exact ⟨h, rfl⟩
  | cons chunk chunks ih =>
    obtain ⟨hlength, htakes⟩ := hchunks chunk List.mem_cons_self
    rw [image_cons, ← List.append_assoc] at hfits ⊢
    have hhead : (data ++ chunk.2).length ≤ s.preparedMetadata.size := by
      rw [List.length_append] at hfits
      omega
    obtain ⟨hnext, hpackage⟩ := h.chunk_fits hlength htakes hhead
    rw [← hpackage] at hfits
    have hrest := ih hnext (fun c hc => hchunks c (List.mem_cons_of_mem _ hc)) hfits
    rw [hpackage] at hrest
    exact hrest

/-- Feeding more than the package says ends the update. -/
theorem feed_overflows {chunks : List (Platform × List UInt8)} (h : Receiving fw s data)
    (hchunks : Delivered chunks)
    (hfull : data.length ≤ s.preparedMetadata.size)
    (hoverflows : s.preparedMetadata.size < (data ++ image chunks).length) :
    (run (call fw) s (feed chunks)).updateState = .failed := by
  induction chunks generalizing s data with
  | nil =>
    rw [image, List.map_nil, List.flatten_nil, List.append_nil] at hoverflows
    omega
  | cons chunk chunks ih =>
    obtain ⟨hlength, htakes⟩ := hchunks chunk List.mem_cons_self
    rw [image_cons, ← List.append_assoc] at hoverflows
    simp only [feed, List.map_cons, run_cons]
    by_cases hhead : (data ++ chunk.2).length ≤ s.preparedMetadata.size
    · obtain ⟨hnext, hpackage⟩ := h.chunk_fits hlength htakes hhead
      rw [← hpackage] at hhead hoverflows
      exact ih hnext (fun c hc => hchunks c (List.mem_cons_of_mem _ hc)) hhead hoverflows
    · have hgiven := h.chunk_overflows (p := chunk.1) hlength (Nat.lt_of_not_le hhead)
      have hout : (call fw s (.writePreparedChunk chunk.1 chunk.2)).updateState ≠ .receiving := by
        simp [hgiven.updateState]
      have hidle := feed_idle fw hout chunks
      rw [feed] at hidle
      rw [hidle]
      exact hgiven.updateState

/-- A finish seals the image exactly when length and digest are as expected. -/
theorem Receiving.finish_iff (h : Receiving fw s data) {p : Platform}
    (hfinish : p.hashFinishes = true) (hend : p.updateEnds = true) :
    (call fw s (.finishPreparedInstall p)).updateState = .pendingReboot ↔
      data.length = s.preparedMetadata.size ∧
        fw.crypto.sha256 data = s.preparedMetadata.sha256 := by
  have hcount := h.receivedBytes
  have hhash : s.uploadHash = data := by
    rw [← h.written]
    exact (h.inStep.receiving h.state).2.1
  have hcomplete : complete fw.crypto s = true ↔ data.length = s.preparedMetadata.size ∧
      fw.crypto.sha256 data = s.preparedMetadata.sha256 := by
    simp [complete, hcount, hhash, h.active]
  rw [← hcomplete]
  simp only [call, h.running, Bool.false_eq_true, if_false, perform]
  cases hdone : complete fw.crypto s with
  | true => simp [finishPreparedInstall_ok h.state hdone hfinish hend, sealedImage]
  | false =>
    have hbroken : (complete fw.crypto s && p.hashFinishes && p.updateEnds) = false := by
      rw [hdone]
      rfl
    simp [(finishPreparedInstall_givesUp h.state hbroken).state.updateState]

/-- Any chunking of an image is sealed exactly when the image is the expected one. -/
theorem feed_sealed_iff {chunks : List (Platform × List UInt8)} {finishing : Platform}
    (h : Receiving fw s []) (hchunks : Delivered chunks) (hfinish : finishing.hashFinishes = true)
    (hend : finishing.updateEnds = true) :
    (run (call fw) s (feed chunks ++ [.finishPreparedInstall finishing])).updateState =
        .pendingReboot ↔
      (image chunks).length = s.preparedMetadata.size ∧
        fw.crypto.sha256 (image chunks) = s.preparedMetadata.sha256 := by
  rw [run_append, run_cons, run_nil]
  by_cases hfits : (image chunks).length ≤ s.preparedMetadata.size
  · obtain ⟨hfed, hpackage⟩ := feed_fits h hchunks hfits
    rw [hfed.finish_iff hfinish hend, hpackage, List.nil_append]
  · have hfailed := feed_overflows h hchunks (Nat.zero_le _) (Nat.lt_of_not_le hfits)
    have hout : (run (call fw) s (feed chunks)).updateState ≠ .receiving := by simp [hfailed]
    rw [call_finish_idle fw finishing hout, hfailed]
    constructor
    · intro hsealed
      cases hsealed
    · rintro ⟨hlength, _⟩
      omega

/-- Installation keeps its integrity in every run of promised calls: a sealed
image is the one that the verified manifest describes, the counter never goes
wrong while it is received, and any chunking of that image is sealed. -/
theorem install_integrity (fw : Firmware α) (p : Platform) (pending ready : Bool)
    {calls : List Call} (hcalls : ∀ c ∈ calls, c.Promised) :
    let s := run (call fw) (boot p pending ready) calls
    (s.updateState = .pendingReboot →
      s.device.written.length = s.preparedMetadata.size ∧
      fw.crypto.sha256 s.device.written = s.preparedMetadata.sha256 ∧
      ∃ manifest signature, Verified fw.json fw.crypto fw.profile.identity manifest signature
        s.preparedMetadata) ∧
    (s.updateState = .receiving →
      s.receivedBytes = s.device.written.length ∧ s.receivedBytes ≤ s.preparedMetadata.size ∧
      ∀ length ≤ 65536, s.receivedBytes + length < 2^32) ∧
    ∀ opening finishing chunks, SmallSlot opening → s.device.restarted = false →
      (beginPreparedInstall opening s).2 = .ok () → Delivered chunks →
      finishing.hashFinishes = true → finishing.updateEnds = true →
      ((run (call fw) s (.beginPreparedInstall opening::feed chunks ++
          [.finishPreparedInstall finishing])).updateState = .pendingReboot ↔
        (image chunks).length = s.preparedMetadata.size ∧
          fw.crypto.sha256 (image chunks) = s.preparedMetadata.sha256) := by
  intro s
  have hsound : Sound fw s := sound_run p pending ready calls
  have hstep : InStep fw.crypto s := inStep_run p pending ready hcalls
  refine ⟨?_, ?_, ?_⟩
  · intro hstate
    obtain ⟨hlength, hdigest⟩ := hstep.finished hstate
    exact ⟨hlength, hdigest, hsound.package (hsound.sealedPackage hstate)⟩
  · intro hstate
    obtain ⟨hcount, _, hle, _⟩ := hstep.receiving hstate
    exact ⟨hcount, hle, fun length hlength => hstep.no_wrap hstate hlength⟩
  · intro opening finishing chunks hsmall hrunning hbegan hchunks hfinish hend
    have hopens : opens opening s = true := by
      cases h : opens opening s with
      | true => rfl
      | false =>
        obtain ⟨text, herror⟩ := (beginPreparedInstall_givesUp h).error
        rw [herror] at hbegan
        cases hbegan
    have hcall : call fw s (.beginPreparedInstall opening) = opened opening s := by
      simp only [call, hrunning, Bool.false_eq_true, if_false, perform]
      rw [beginPreparedInstall_ok hopens]
    rw [List.cons_append, run_cons, hcall]
    exact feed_sealed_iff (receiving_opened hopens hsmall hrunning) hchunks hfinish hend

/-- The sample package is sealed as it should be, in one part or in two. -/
theorem install_integrity_sample :
    sampleSealed.device.written.length = 2 ∧
      sampleCrypto.sha256 sampleSealed.device.written = sampleFirmwareDigest ∧
      (run (call sampleDevice) samplePrepared (.beginPreparedInstall {}::
        feed [({}, [0xe9]), ({}, []), ({}, [0x01])] ++ [.finishPreparedInstall {}])).updateState =
        .pendingReboot := by
  have hsmall : SmallSlot {} := by
    intro size hsize
    cases hsize
    decide
  have hdelivered : Delivered [({}, [0xe9]), ({}, []), ({}, [0x01])] := by
    simp [Delivered, takes]
  have hprepare : ∀ c ∈ [Call.postPrepare {} (some sampleManifest) (some "MAA=")], c.Promised := by
    simp [Call.Promised, Call.Allows]
  have hinstall : ∀ c ∈ Call.postPrepare {} (some sampleManifest) (some "MAA=")::sampleUpload,
      c.Promised := by
    simp [sampleUpload, Call.Promised, Call.Allows, hsmall]
  have hsealed := (install_integrity sampleDevice {} false true hinstall).1
  have hfed := (install_integrity sampleDevice {} false true hprepare).2.2
  rw [sampleInstall_run] at hsealed
  rw [samplePrepare_run] at hfed
  obtain ⟨hlength, hdigest, _⟩ := hsealed rfl
  exact ⟨hlength, hdigest,
    (hfed {} {} _ hsmall rfl rfl hdelivered rfl rfl).mpr ⟨by decide, by decide⟩⟩

/-! ### Downloading an image -/

/-- The stream breaks off: it disconnects, times out or delivers nothing
before the image is complete and before hash or flash refuse a chunk of it. -/
def streamFails (expectedSize : ℕ) : List Poll → ℕ → ℕ → Bool
  | polls, total, lastProgress =>
    if expectedSize ≤ total then false
    else
      match polls with
      | [] => false
      | poll::polls =>
        if poll.available ≤ 0 then
          if !poll.connected || poll.timedOut lastProgress then true
          else streamFails expectedSize polls total lastProgress
        else
          let read := poll.read (min DOWNLOAD_CHUNK_BYTES (expectedSize - total))
          if read = [] then true
          else if !takes poll.platform read.length then false
          else streamFails expectedSize polls (total + read.length) (poll.clock % 2^32)

/-- The worker has opened a session and then its stream breaks off. -/
def downloadBreaksOff (profile : BuildProfile) (inputs : ApplyInputs) (localBase : String)
    (s : Updater) : Bool :=
  match applyWorkerStarts profile inputs localBase s.preparedMetadata with
  | .error _ => false
  | .ok _ => opens inputs.opening s && streamFails s.preparedMetadata.size inputs.firmware.polls 0
      (inputs.firmware.clock % 2^32)

/-- A session in the middle of a download. -/
structure Downloading (expectedSize total : ℕ) (s : Updater) : Prop where
  /-- The update receives bytes. -/
  state : s.updateState = .receiving
  /-- The hash context is in use. -/
  active : s.uploadHashActive = true
  /-- As many bytes have arrived. -/
  received : s.receivedBytes = total
  /-- The package has the expected size. -/
  size : s.preparedMetadata.size = expectedSize
  /-- No more has arrived than is expected. -/
  fits : total ≤ expectedSize
  /-- The size is a 32-bit number. -/
  small : expectedSize < 2^32

/-- A chunk that was asked for fits: only hash or flash can refuse it. -/
theorem Downloading.write {expectedSize total : ℕ} (h : Downloading expectedSize total s)
    {p : Platform} {read : List UInt8} (hread : read ≠ [])
    (hlength : total + read.length ≤ expectedSize) :
    (takes p read.length = true ∧ writePreparedChunk p read s = (absorbed read s, .ok ()) ∧
      Downloading expectedSize (total + read.length) (absorbed read s)) ∨
    (takes p read.length = false ∧ GivesUp s (writePreparedChunk p read s)) := by
  have hsmall := h.small
  have hmod : (s.receivedBytes + read.length) % 2^32 = total + read.length := by
    rw [h.received]
    exact Nat.mod_eq_of_lt (by omega)
  cases htakes : takes p read.length with
  | true =>
    left
    have hsize : (s.receivedBytes + read.length) % 2^32 ≤ s.preparedMetadata.size := by
      rw [hmod, h.size]
      exact hlength
    exact ⟨rfl, writePreparedChunk_ok h.state hsize h.active hread htakes,
      ⟨h.state, h.active, hmod, h.size, hlength, h.small⟩⟩
  | false =>
    right
    exact ⟨rfl, writePreparedChunk_givesUp h.state (.inr ⟨hread, by simp [htakes]⟩)⟩

/-- The loop ends at once when the image is complete. -/
theorem downloadLoop_complete {expectedSize total : ℕ} (polls : List Poll) (lastProgress : ℕ)
    (s : Updater) (h : expectedSize ≤ total) :
    downloadLoop expectedSize polls total lastProgress s = (s, some (total, "")) ∧
      streamFails expectedSize polls total lastProgress = false := by
  unfold downloadLoop streamFails
  rw [if_pos h, if_pos h]
  exact ⟨rfl, rfl⟩

/-- What one turn of the loop can be, when bytes are missing: the end of the
stream, a turn without bytes, or a chunk that is handed on. -/
theorem downloadLoop_streamed {expectedSize total : ℕ} (poll : Poll) (polls : List Poll)
    (lastProgress : ℕ) (s : Updater) (h : ¬expectedSize ≤ total) :
    (∃ error, downloadLoop expectedSize (poll::polls) total lastProgress s =
        (s, some (total, error)) ∧
      streamFails expectedSize (poll::polls) total lastProgress = true) ∨
    (downloadLoop expectedSize (poll::polls) total lastProgress s =
        downloadLoop expectedSize polls total lastProgress s ∧
      streamFails expectedSize (poll::polls) total lastProgress =
        streamFails expectedSize polls total lastProgress) ∨
    ∃ read, read ≠ [] ∧ total + read.length ≤ expectedSize ∧
      downloadLoop expectedSize (poll::polls) total lastProgress s =
        (match writePreparedChunk poll.platform read s with
        | (s, .error error) => (s, some (total, error))
        | (s, .ok _) =>
          downloadLoop expectedSize polls (total + read.length) (poll.clock % 2^32) s) ∧
      streamFails expectedSize (poll::polls) total lastProgress =
        (takes poll.platform read.length &&
          streamFails expectedSize polls (total + read.length) (poll.clock % 2^32)) := by
  rw [downloadLoop, streamFails, if_neg h, if_neg h]
  dsimp only
  by_cases havailable : poll.available ≤ 0
  · rw [if_pos havailable, if_pos havailable]
    cases hconnected : poll.connected with
    | false => exact .inl ⟨_, rfl, rfl⟩
    | true =>
      cases htimeout : poll.timedOut lastProgress with
      | true => exact .inl ⟨_, rfl, rfl⟩
      | false => exact .inr (.inl ⟨rfl, rfl⟩)
  · rw [if_neg havailable, if_neg havailable]
    by_cases hread : poll.read (min DOWNLOAD_CHUNK_BYTES (expectedSize - total)) = []
    · rw [if_pos hread, if_pos hread]
      exact .inl ⟨_, rfl, rfl⟩
    · rw [if_neg hread, if_neg hread]
      refine .inr (.inr ⟨_, hread, ?_, rfl, ?_⟩)
      · simp only [Poll.read, List.length_take]
        omega
      · cases takes poll.platform _ <;> rfl

/-- The three ends of a download loop: the stream broke off and the session
is still open, a chunk was refused and the update given up, or the image is
complete. Only the last one has all the bytes. -/
theorem downloadLoop_ends {expectedSize : ℕ} (polls : List Poll) {total : ℕ} (lastProgress : ℕ)
    {s t : Updater} {got : ℕ} {error : String} (h : Downloading expectedSize total s)
    (hends : downloadLoop expectedSize polls total lastProgress s = (t, some (got, error))) :
    (streamFails expectedSize polls total lastProgress = true ∧ t.updateState = .receiving ∧
      got ≠ expectedSize) ∨
    (streamFails expectedSize polls total lastProgress = false ∧
      ((t.updateState = .failed ∧ t.updateSessionOpen = false ∧ got ≠ expectedSize) ∨
        (t.updateState = .receiving ∧ got = expectedSize ∧ error = ""))) := by
  by_cases hdone : expectedSize ≤ total
  · obtain ⟨hloop, hstream⟩ := downloadLoop_complete polls lastProgress s hdone
    rw [hloop] at hends
    cases hends
    exact .inr ⟨hstream, .inr ⟨h.state, Nat.le_antisymm h.fits hdone, rfl⟩⟩
  · induction polls generalizing total lastProgress s with
    | nil =>
      rw [downloadLoop, if_neg hdone] at hends
      cases hends
    | cons poll polls ih =>
      rcases downloadLoop_streamed poll polls lastProgress s hdone with ⟨text, hloop, hstream⟩ |
          ⟨hloop, hstream⟩ | ⟨read, hread, hlength, hloop, hstream⟩
      · rw [hloop] at hends
        cases hends
        exact .inl ⟨hstream, h.state, by omega⟩
      · rw [hstream]
        rw [hloop] at hends
        exact ih lastProgress h hends hdone
      · rw [hstream]
        rw [hloop] at hends
        rcases h.write (p := poll.platform) hread hlength with ⟨htakes, hwrite, hnext⟩ |
            ⟨htakes, ⟨text, herror⟩, hgiven⟩
        · rw [htakes, Bool.true_and]
          rw [hwrite] at hends
          dsimp only at hends
          by_cases hlast : expectedSize ≤ total + read.length
          · obtain ⟨hend, hnone⟩ := downloadLoop_complete polls (poll.clock % 2^32)
              (absorbed read s) hlast
            rw [hend] at hends
            cases hends
            exact .inr ⟨hnone, .inr ⟨hnext.state, by omega, rfl⟩⟩
          · exact ih _ hnext hends hlast
        · rw [htakes, Bool.false_and]
          split at hends
          · rename_i hout
            rw [hout] at hgiven
            cases hends
            exact .inr ⟨rfl, .inl ⟨hgiven.updateState, hgiven.session, by omega⟩⟩
          · rename_i hout
            rw [hout] at herror
            cases herror

/-- A session that has just been opened is at the start of its download. -/
theorem downloading_opened {p : Platform} (h : Sound fw s) (hopens : opens p s = true) :
    Downloading s.preparedMetadata.size 0 (opened p s) := by
  simp only [opens, Bool.and_eq_true] at hopens
  obtain ⟨manifest, signature, hverified⟩ := h.package hopens.1.1.1
  exact ⟨rfl, rfl, rfl, rfl, Nat.zero_le _, hverified.size_lt⟩

/-- An updater from which the next check is not refused as busy. -/
def Retryable (s : Updater) : Prop :=
  canPreparePackage s = true ∧ s.updateSessionOpen = false

/-- Giving up leaves the updater retryable. -/
theorem retryable_of_failed (hstate : s.updateState = .failed)
    (hsession : s.updateSessionOpen = false) : Retryable s :=
  ⟨by simp [canPreparePackage, hstate], hsession⟩

/-- A worker that ends with its session open has left it in RECEIVING, which
is when its stream broke off; otherwise it has sealed the image or given up. -/
theorem applyWorkerBody_ends {inputs : ApplyInputs} {localBase : String} {t : Updater}
    {result : Except String Unit} (h : Sound fw s)
    (hends : applyWorkerBody fw inputs localBase s = (t, .ended result)) :
    (downloadBreaksOff fw.profile inputs localBase s = true ∧ t.updateState = .receiving) ∨
    (downloadBreaksOff fw.profile inputs localBase s = false ∧
      (t = s ∨ t.updateState = .pendingReboot ∨
        (t.updateState = .failed ∧ t.updateSessionOpen = false))) := by
  unfold applyWorkerBody at hends
  unfold downloadBreaksOff
  dsimp only at hends
  cases hstarts : applyWorkerStarts fw.profile inputs localBase s.preparedMetadata with
  | error error =>
    rw [hstarts] at hends
    cases hends
    exact .inr ⟨rfl, .inl rfl⟩
  | ok started =>
    rw [hstarts] at hends
    dsimp only at hends ⊢
    cases hopens : opens inputs.opening s with
    | false =>
      obtain ⟨⟨text, herror⟩, hgiven⟩ := beginPreparedInstall_givesUp hopens
      split at hends
      · rename_i hout
        cases hends
        rw [hout] at hgiven
        exact .inr ⟨rfl, .inr (.inr ⟨hgiven.updateState, hgiven.session⟩)⟩
      · rename_i hout
        rw [hout] at herror
        cases herror
    | true =>
      rw [Bool.true_and]
      rw [beginPreparedInstall_ok hopens] at hends
      dsimp only at hends
      split at hends
      · cases hends
      · rename_i u got error hloop
        have hshort : got ≠ s.preparedMetadata.size → t = u := by
          intro hgot
          split at hends
          · cases hends
            rfl
          · rw [if_pos (by simpa using hgot)] at hends
            cases hends
            rfl
        rcases downloadLoop_ends _ _ (downloading_opened h hopens) hloop with
          ⟨hstream, hstate, hgot⟩ | ⟨hstream, ⟨hstate, hsession, hgot⟩ | ⟨hstate, hgot, herror⟩⟩
        · rw [hshort hgot]
          exact .inl ⟨hstream, hstate⟩
        · rw [hshort hgot]
          exact .inr ⟨hstream, .inr (.inr ⟨hstate, hsession⟩)⟩
        · rw [if_neg (by simp [herror]), if_neg (by simp [hgot])] at hends
          refine .inr ⟨hstream, .inr ?_⟩
          rcases finishPreparedInstall_cases fw.crypto inputs.finishing u with ⟨hother, _⟩ |
              ⟨_, _, heq⟩ | ⟨_, hgives⟩
          · exact absurd hstate hother
          · rw [heq] at hends
            cases hends
            exact .inl rfl
          · have hgiven := hgives.state
            right
            split at hends <;> rename_i hout <;> cases hends <;> rw [hout] at hgiven <;>
              exact ⟨hgiven.updateState, hgiven.session⟩

/-- In every run, an apply worker that ends without a sealed image leaves the
updater retryable exactly when its download did not break off. -/
theorem failedInstall_retryable (fw : Firmware α) (p : Platform) (pending ready : Bool)
    (calls : List Call) (inputs : ApplyInputs) (localBase : String) {t : Updater}
    {result : Except String Unit}
    (hstart : canPreparePackage (run (call fw) (boot p pending ready) calls) = true)
    (hends : applyWorkerBody fw inputs localBase (run (call fw) (boot p pending ready) calls) =
      (t, .ended result)) :
    (t.updateState ≠ .pendingReboot → Retryable t) ↔
      downloadBreaksOff fw.profile inputs localBase (run (call fw) (boot p pending ready) calls) =
        false := by
  have hsound : Sound fw (run (call fw) (boot p pending ready) calls) :=
    sound_run p pending ready calls
  have hclosed : Retryable (run (call fw) (boot p pending ready) calls) := by
    refine ⟨hstart, hsound.closed ?_⟩
    intro hstate
    simp [canPreparePackage, hstate] at hstart
  rcases applyWorkerBody_ends hsound hends with ⟨hbreaks, hstate⟩ |
      ⟨hbreaks, rfl | hstate | ⟨hstate, hsession⟩⟩
  · rw [hbreaks]
    constructor
    · intro hretry
      have hcan := (hretry (by simp [hstate])).1
      simp [canPreparePackage, hstate] at hcan
    · intro hfalse
      cases hfalse
  · exact ⟨fun _ => hbreaks, fun _ _ => hclosed⟩
  · exact ⟨fun _ => hbreaks, fun _ hother => absurd hstate hother⟩
  · exact ⟨fun _ => hbreaks, fun _ _ => retryable_of_failed hstate hsession⟩

/-- A download of the sample package that meets these turns. -/
def sampleDownload (polls : List Poll) : ApplyInputs where
  firmware := { contentLength := 2, polls }

/-- A download whose second byte the flash refuses. -/
def refusedDownload : ApplyInputs :=
  sampleDownload [{ available := 1, stream := [0xe9] },
    { available := 1, stream := [0x01], platform := { updateWrites := fun _ => 0 } }]

/-- A flash writer that refuses the second byte leaves the updater retryable. -/
theorem failedInstall_retryable_flash : Retryable
    (applyWorkerBody sampleDevice refusedDownload "https://updates.local/" samplePrepared).1 := by
  have hends : applyWorkerBody sampleDevice refusedDownload "https://updates.local/"
      samplePrepared = ((applyWorkerBody sampleDevice refusedDownload "https://updates.local/"
        samplePrepared).1, .ended (.error "update_write_failed_0")) := by rfl
  rw [← samplePrepare_run] at hends ⊢
  have hretry := failedInstall_retryable sampleDevice {} false true
    [.postPrepare {} (some sampleManifest) (some "MAA=")] refusedDownload "https://updates.local/"
    (by rw [samplePrepare_run]; rfl) hends
  rw [samplePrepare_run] at hretry ⊢
  exact hretry.mpr (by decide) (by decide)

/-- A connection that drops after the first byte leaves the session open, and
the next package is refused as busy. -/
theorem failedInstall_disconnect :
    ¬ ∀ polls t result, applyWorkerBody sampleDevice (sampleDownload polls) "https://updates.local/"
        (run (call sampleDevice) (boot {} false true)
          [.postPrepare {} (some sampleManifest) (some "MAA=")]) = (t, .ended result) →
      t.updateState ≠ .pendingReboot → Retryable t := by
  intro h
  rw [samplePrepare_run] at h
  have hretry := h [{ available := 1, stream := [0xe9] }, { connected := false }] _ _ rfl
    (by decide)
  exact absurd hretry.1 (by decide)

end ProjEsp32.InstallTransfer
