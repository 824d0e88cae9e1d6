import ProjEsp32.RemoteTransfer
import ProjEsp32.TransitionRuns

/-!
# Runs of the update service

Every way into the service is a `Call`: the HTTP routes, the install entry
points, the remote workers and the tick of the main loop. Calls are atomic and
come in any order. A call after the restart of the device does nothing, since
the boot is over. Two invariants are shown for every run: what holds with any
callers, and what holds with the chunk and partition sizes that the callers
and the partition table promise.
-/

namespace ProjEsp32.FirmwareUpdateRuns

open ArduinoJson CheckedResult FirmwarePackageVerifier FirmwareUpdate RemoteTransfer
open TransitionRuns

variable {α : Type}

/-- One entry into the update service, with the answers it meets. -/
inductive Call where
  | postPrepare (p : Platform) (manifest signature : Option String)
  | preparePackage (p : Platform) (manifest signature : String)
  | upload (p : Platform) (index : ℕ) (data : List UInt8) (final : Bool)
  | beginPreparedInstall (p : Platform)
  | writePreparedChunk (p : Platform) (data : List UInt8)
  | finishPreparedInstall (p : Platform)
  | checkWorker (inputs : CheckInputs) (localManifestUrl : String)
  | applyWorker (inputs : ApplyInputs) (localBase : String)
  | tick (p : Platform) (criticalStorageReady : Bool)

/-- What one call does to the service of a running device. -/
def perform (fw : Firmware α) (s : Updater) : Call → Updater
  | .postPrepare p manifest signature => postPrepare fw p manifest signature s
  | .preparePackage p manifest signature => (preparePackage fw p manifest signature s).1
  | .upload p index data final => upload fw.crypto p index data final s
  | .beginPreparedInstall p => (beginPreparedInstall p s).1
  | .writePreparedChunk p data => (writePreparedChunk p data s).1
  | .finishPreparedInstall p => (finishPreparedInstall fw.crypto p s).1
  | .checkWorker inputs url => (checkWorkerBody fw inputs url s).1
  | .applyWorker inputs localBase => (applyWorkerBody fw inputs localBase s).1
  | .tick p ready => tick fw.profile p ready s

/-- One step of a run; a restarted device takes no further calls in this boot. -/
def call (fw : Firmware α) (s : Updater) (c : Call) : Updater :=
  if s.device.restarted then s else perform fw s c

/-- The partitions that a call may find and the chunk lengths that it may bring. -/
def Call.Allows (partition : Platform → Prop) (chunk : ℕ → Prop) : Call → Prop
  | .upload p _ data _ => partition p ∧ chunk data.length
  | .beginPreparedInstall p => partition p
  | .writePreparedChunk _ data => chunk data.length
  | .applyWorker inputs _ => partition inputs.opening ∧ ∀ n ≤ DOWNLOAD_CHUNK_BYTES, chunk n
  | _ => True

/-- A partition below 2 GiB, as every partition of the table is. -/
def SmallSlot (p : Platform) : Prop := ∀ size, p.nextUpdate = some size → size < 2^31

/-- What callers and partition table promise: small partitions, and chunks of
at most 65536 bytes. -/
def Call.Promised : Call → Prop := Call.Allows SmallSlot (· ≤ 65536)

/-! ### From the entry points to the calls -/

section Preservation

variable {I : Updater → Prop} {R : Platform → Prop} {L : ℕ → Prop}

/-- A download loop preserves what the writing of a chunk preserves. -/
theorem downloadLoop_preserves (hchunk : ∀ n ≤ DOWNLOAD_CHUNK_BYTES, L n)
    (hwrite : ∀ p data s, L data.length → I s → I (writePreparedChunk p data s).1)
    (expectedSize : ℕ) (polls : List Poll) (total lastProgress : ℕ) {s : Updater} (hs : I s) :
    I (downloadLoop expectedSize polls total lastProgress s).1 := by
  induction polls generalizing total lastProgress s with
  | nil =>
    unfold downloadLoop
    split <;> exact hs
  | cons poll polls ih =>
    by_cases hdone : expectedSize ≤ total
    · rw [downloadLoop_of_le hdone]
      exact hs
    · cases downloadLoop_turn hdone lastProgress poll polls s with
      | leaves error _ h =>
        rw [h]
        exact hs
      | waits h =>
        rw [h]
        exact ih _ _ hs
      | refused hlength hrefused h =>
        have hnext := hwrite poll.platform _ s (hchunk _ hlength) hs
        rw [hrefused] at hnext
        rw [h]
        exact hnext
      | taken hlength htaken h =>
        have hnext := hwrite poll.platform _ s (hchunk _ hlength) hs
        rw [htaken] at hnext
        rw [h]
        exact ih _ _ hnext

/-- An upload callback is an optional begin, an optional write and an optional
finish. -/
theorem upload_preserves {crypto : Crypto} {p : Platform} {index : ℕ} {data : List UInt8}
    {final : Bool} (hbegin : index = 0 → ∀ s, I s → I (beginPreparedInstall p s).1)
    (hwrite : ∀ s, I s → I (writePreparedChunk p data s).1)
    (hfinish : ∀ s, I s → I (finishPreparedInstall crypto p s).1) {s : Updater}
    (hs : I s) : I (upload crypto p index data final s) := by
  unfold upload
  have hfirst : I (if index = 0 then beginPreparedInstall p s else (s, .ok ())).1 := by
    split
    · rename_i hindex
      exact hbegin hindex s hs
    · exact hs
  generalize (if index = 0 then beginPreparedInstall p s else (s, .ok ())) = opening at hfirst ⊢
  obtain ⟨t, began⟩ := opening
  cases began with
  | error text => exact hfirst
  | ok _ =>
    dsimp only at hfirst ⊢
    split
    · exact hfirst
    · have hsecond :
          I (if 0 < data.length then writePreparedChunk p data t else (t, .ok ())).1 := by
        split
        · exact hwrite t hfirst
        · exact hfirst
      generalize (if 0 < data.length then writePreparedChunk p data t else (t, .ok ())) = writing
        at hsecond ⊢
      obtain ⟨u, wrote⟩ := writing
      cases wrote with
      | error text => exact hsecond
      | ok _ =>
        dsimp only at hsecond ⊢
        split
        · exact hfinish u hsecond
        · exact hsecond

/-- A check worker prepares at most one package. -/
theorem checkWorkerBody_preserves {fw : Firmware α}
    (hprepare : ∀ p manifest signature s, I s → I (preparePackage fw p manifest signature s).1)
    (inputs : CheckInputs) (url : String) {s : Updater} (hs : I s) :
    I (checkWorkerBody fw inputs url s).1 := by
  unfold checkWorkerBody
  dsimp only
  split
  · exact hs
  · split
    · exact hs
    · split
      · exact hs
      · exact hs
      · rename_i manifest _ _ _ signature _
        have hprepared := hprepare inputs.platform manifest signature s hs
        split <;> rename_i h <;> rw [h] at hprepared <;> exact hprepared

/-- An apply worker opens a session, writes chunks and finishes. -/
theorem applyWorkerBody_preserves {fw : Firmware α} {inputs : ApplyInputs}
    (hchunk : ∀ n ≤ DOWNLOAD_CHUNK_BYTES, L n)
    (hbegin : ∀ s, I s → I (beginPreparedInstall inputs.opening s).1)
    (hwrite : ∀ p data s, L data.length → I s → I (writePreparedChunk p data s).1)
    (hfinish : ∀ p s, I s → I (finishPreparedInstall fw.crypto p s).1)
    (localBase : String) {s : Updater} (hs : I s) :
    I (applyWorkerBody fw inputs localBase s).1 := by
  unfold applyWorkerBody
  dsimp only
  split
  · exact hs
  · have hopened := hbegin s hs
    split
    · rename_i h
      rw [h] at hopened
      exact hopened
    · rename_i t _ h
      rw [h] at hopened
      have hloaded := downloadLoop_preserves hchunk hwrite s.preparedMetadata.size
        inputs.firmware.polls 0 (inputs.firmware.clock % 2^32) hopened
      split
      · rename_i hloop
        rw [hloop] at hloaded
        exact hloaded
      · rename_i u _ _ hloop
        rw [hloop] at hloaded
        split
        · exact hloaded
        · split
          · exact hloaded
          · have hfinished := hfinish inputs.finishing u hloaded
            split <;> rename_i hend <;> rw [hend] at hfinished <;> exact hfinished

/-- What the entry points preserve, every call preserves. -/
theorem call_preserves {fw : Firmware α}
    (herror : ∀ text s, I s → I { s with lastError := text })
    (hprepare : ∀ p manifest signature s, I s → I (preparePackage fw p manifest signature s).1)
    (hbegin : ∀ p s, R p → I s → I (beginPreparedInstall p s).1)
    (hwrite : ∀ p data s, L data.length → I s → I (writePreparedChunk p data s).1)
    (hfinish : ∀ p s, I s → I (finishPreparedInstall fw.crypto p s).1)
    (htick : ∀ p ready s, I s → I (tick fw.profile p ready s))
    {s : Updater} {c : Call} (hs : I s) (hc : c.Allows R L) :
    I (call fw s c) := by
  unfold call
  split
  · exact hs
  · cases c with
    | postPrepare p manifest signature =>
      simp only [perform, postPrepare]
      split
      · exact hprepare _ _ _ _ hs
      · exact herror _ _ hs
    | preparePackage p manifest signature => exact hprepare _ _ _ _ hs
    | upload p index data final =>
      exact upload_preserves (fun _ s hs => hbegin p s hc.1 hs) (hwrite p data · hc.2)
        (hfinish p) hs
    | beginPreparedInstall p => exact hbegin _ _ hc hs
    | writePreparedChunk p data => exact hwrite _ _ _ hc hs
    | finishPreparedInstall p => exact hfinish _ _ hs
    | checkWorker inputs url => exact checkWorkerBody_preserves hprepare inputs url hs
    | applyWorker inputs localBase =>
      exact applyWorkerBody_preserves hc.2 (hbegin _ · hc.1) hwrite hfinish localBase hs
    | tick p ready => exact htick _ _ _ hs

end Preservation

/-! ### Invariants of every run -/

/-- What holds in every run: a prepared package is a verified one, a session
is open exactly while bytes are received, FINALIZING is passed through within
one call, and the package of a sealed image stays prepared. -/
structure Sound (fw : Firmware α) (s : Updater) : Prop where
  /-- A prepared package has been verified. -/
  package : s.preparedMetadata.valid = true → ∃ manifest signature,
    Verified fw.json fw.crypto fw.profile.identity manifest signature s.preparedMetadata
  /-- A session is open only while bytes are received. -/
  session : s.updateSessionOpen = true → s.updateState = .receiving
  /-- And bytes are received only into one, for a prepared package. -/
  receiving : s.updateState = .receiving →
    s.updateSessionOpen = true ∧ s.uploadHashActive = true ∧ s.preparedMetadata.valid = true
  /-- `FINALIZING` does not last. -/
  settled : s.updateState ≠ .finalizing
  /-- The package of a sealed image stays prepared. -/
  sealedPackage : s.updateState = .pendingReboot → s.preparedMetadata.valid = true

variable {fw : Firmware α} {s t : Updater}

/-- No session is open outside of RECEIVING. -/
theorem Sound.closed (h : Sound fw s) (hstate : s.updateState ≠ .receiving) :
    s.updateSessionOpen = false := by
  cases hopen : s.updateSessionOpen with
  | false => rfl
  | true => exact absurd (h.session hopen) hstate

/-- A change of state that keeps the package and has no session is sound. -/
theorem Sound.of_closed (h : Sound fw s) (hpackage : t.preparedMetadata = s.preparedMetadata)
    (hclosed : t.updateSessionOpen = false) (hreceiving : t.updateState ≠ .receiving)
    (hfinalizing : t.updateState ≠ .finalizing)
    (hsealed : t.updateState = .pendingReboot → s.preparedMetadata.valid = true) : Sound fw t where
  package := by
    rw [hpackage]
    exact h.package
  session := by simp [hclosed]
  receiving := fun hstate => absurd hstate hreceiving
  settled := hfinalizing
  sealedPackage := by
    rw [hpackage]
    exact hsealed

/-- Giving up is sound. -/
theorem Sound.givenUp (h : Sound fw s) (ht : GivenUp s t) : Sound fw t :=
  h.of_closed ht.package ht.session (by simp [ht.updateState]) (by simp [ht.updateState])
    (by simp [ht.updateState])

/-- A start keeps the updater sound. -/
theorem Sound.beginPreparedInstall (h : Sound fw s) (p : Platform) :
    Sound fw (beginPreparedInstall p s).1 := by
  cases hopens : opens p s with
  | false => exact h.givenUp (beginPreparedInstall_givesUp hopens).state
  | true =>
    rw [beginPreparedInstall_ok hopens]
    simp only [opens, Bool.and_eq_true] at hopens
    exact
      { package := h.package
        session := fun _ => rfl
        receiving := fun _ => ⟨rfl, rfl, hopens.1.1.1⟩
        settled := by simp [opened]
        sealedPackage := by simp [opened] }

/-- A chunk keeps the updater sound. -/
theorem Sound.writePreparedChunk (h : Sound fw s) (p : Platform) (data : List UInt8) :
    Sound fw (writePreparedChunk p data s).1 := by
  rcases writePreparedChunk_cases p data s with ⟨_, heq⟩ | ⟨_, _, heq⟩ |
      ⟨_, _, _, _, _, heq⟩ | ⟨_, hgiven⟩
  · rw [heq]
    exact h
  · rw [heq]
    exact h
  · rw [heq]
    exact { h with }
  · exact h.givenUp hgiven.state

/-- An end keeps the updater sound. -/
theorem Sound.finishPreparedInstall (h : Sound fw s) (p : Platform) :
    Sound fw (finishPreparedInstall fw.crypto p s).1 := by
  rcases finishPreparedInstall_cases fw.crypto p s with ⟨_, heq⟩ | ⟨hstate, _, heq⟩ | ⟨_, hgiven⟩
  · rw [heq]
    exact h
  · rw [heq]
    exact h.of_closed rfl rfl (by simp [sealedImage]) (by simp [sealedImage])
      fun _ => (h.receiving hstate).2.2
  · exact h.givenUp hgiven.state

/-- A package keeps the updater sound. -/
theorem Sound.preparePackage (h : Sound fw s) (p : Platform) (manifest signature : String) :
    Sound fw (preparePackage fw p manifest signature s).1 := by
  cases hcan : canPreparePackage s with
  | false =>
    rw [preparePackage_busy hcan]
    exact { h with }
  | true =>
    have hreceiving : s.updateState ≠ .receiving := by
      intro hstate
      simp [canPreparePackage, hstate] at hcan
    have hreboot : s.updateState ≠ .pendingReboot := by
      intro hstate
      simp [canPreparePackage, hstate] at hcan
    obtain ⟨package, error, heq, hpackage⟩ := preparePackage_cases fw p manifest signature s
    rw [heq]
    exact
      { package := by
          rcases hpackage with hpackage | hpackage | hpackage
          · rw [hpackage]
            exact h.package
          · simp [hpackage, clear]
          · exact fun _ => ⟨manifest, signature, hpackage⟩
        session := h.session
        receiving := fun hstate => absurd hstate hreceiving
        settled := h.settled
        sealedPackage := fun hstate => absurd hstate hreboot }

/-- A tick keeps the updater sound. -/
theorem Sound.tick (h : Sound fw s) (p : Platform) (ready : Bool) :
    Sound fw (tick fw.profile p ready s) := by
  rcases tick_cases fw.profile p ready s with heq | ⟨_, heq⟩ | ⟨hstate, _, _, heq⟩ |
      ⟨hstate, _, _, heq⟩ <;> rw [heq]
  · exact h
  · exact { h with }
  · obtain ⟨_, _, hpackage, hclosed⟩ := acceptImage_spec p s
    have hsession := hclosed (h.closed (by simp [hstate]))
    rcases acceptImage_outside p s with hvalid | hfailed
    · exact h.of_closed hpackage hsession (by simp [hvalid]) (by simp [hvalid]) (by simp [hvalid])
    · exact h.of_closed hpackage hsession (by simp [hfailed]) (by simp [hfailed])
        (by simp [hfailed])
  · have hclosed := h.closed (by simp [hstate])
    exact h.of_closed rfl hclosed (by simp [rejectImage, setState])
      (by simp [rejectImage, setState]) (by simp [rejectImage, setState])

/-- The service is sound after every boot. -/
theorem sound_boot (fw : Firmware α) (p : Platform) (pending ready : Bool) :
    Sound fw (boot p pending ready) := by
  cases pending <;> constructor <;> simp [boot, begin, clearUploadHash_eq, setState, clear]

/-- Every call keeps the service sound. -/
theorem sound_call (s : Updater) (c : Call) (h : Sound fw s) : Sound fw (call fw s c) := by
  have hc : c.Allows (fun _ => True) (fun _ => True) := by
    cases c <;> simp [Call.Allows]
  exact call_preserves (fun _ _ h => { h with }) (fun p m sig _ h => h.preparePackage p m sig)
    (fun p _ _ h => h.beginPreparedInstall p) (fun p data _ _ h => h.writePreparedChunk p data)
    (fun p _ h => h.finishPreparedInstall p) (fun p ready _ h => h.tick p ready) h hc

/-- Every run keeps the service sound. -/
theorem sound_run (p : Platform) (pending ready : Bool) (calls : List Call) :
    Sound fw (run (call fw) (boot p pending ready) calls) :=
  run_invariant sound_call (sound_boot fw p pending ready) calls

/-- The four pieces of an installation in step: the counter, the hash and the
flash agree on the bytes received, and a sealed image is complete. -/
structure InStep (crypto : Crypto) (s : Updater) : Prop where
  /-- Counter, hash and flash agree on what has been received. -/
  receiving : s.updateState = .receiving →
    s.receivedBytes = s.device.written.length ∧ s.uploadHash = s.device.written ∧
      s.receivedBytes ≤ s.preparedMetadata.size ∧ s.preparedMetadata.size < 2^31
  /-- A sealed image is complete, and its digest is the expected one. -/
  finished : s.updateState = .pendingReboot →
    s.device.written.length = s.preparedMetadata.size ∧
      crypto.sha256 s.device.written = s.preparedMetadata.sha256

/-- Outside of an installation there is nothing to keep in step. -/
theorem InStep.of_outside {crypto : Crypto} (hreceiving : s.updateState ≠ .receiving)
    (hreboot : s.updateState ≠ .pendingReboot) : InStep crypto s :=
  ⟨fun h => absurd h hreceiving, fun h => absurd h hreboot⟩

/-- An updater that has given up is in step. -/
theorem InStep.givenUp {crypto : Crypto} (ht : GivenUp s t) : InStep crypto t :=
  .of_outside (by simp [ht.updateState]) (by simp [ht.updateState])

/-- A start leaves the updater in step, in a slot of less than 4 GiB. -/
theorem InStep.beginPreparedInstall {crypto : Crypto} {p : Platform} (hsmall : SmallSlot p) :
    InStep crypto (beginPreparedInstall p s).1 := by
  cases hopens : opens p s with
  | false => exact .givenUp (beginPreparedInstall_givesUp hopens).state
  | true =>
    rw [beginPreparedInstall_ok hopens]
    simp only [opens, Bool.and_eq_true] at hopens
    obtain ⟨⟨⟨_, hfits⟩, _⟩, _⟩ := hopens
    have hsize : s.preparedMetadata.size < 2^31 := by
      unfold packageFits at hfits
      split at hfits
      · rename_i size hpartition
        have := hsmall size hpartition
        have : s.preparedMetadata.size ≤ size := by simpa using hfits
        omega
      · cases hfits
    exact ⟨fun _ => ⟨rfl, rfl, Nat.zero_le _, hsize⟩, by simp [opened]⟩

/-- With chunks as promised the 32-bit size test does not wrap. -/
theorem InStep.no_wrap {crypto : Crypto} (h : InStep crypto s) (hstate : s.updateState = .receiving)
    {n : ℕ} (hn : n ≤ 65536) : s.receivedBytes + n < 2^32 := by
  obtain ⟨_, _, hle, hsize⟩ := h.receiving hstate
  omega

/-- A chunk keeps the updater in step. -/
theorem InStep.writePreparedChunk {crypto : Crypto} (h : InStep crypto s) (p : Platform)
    {data : List UInt8} (hdata : data.length ≤ 65536) :
    InStep crypto (writePreparedChunk p data s).1 := by
  rcases writePreparedChunk_cases p data s with ⟨_, heq⟩ | ⟨_, _, heq⟩ |
      ⟨hstate, _, _, _, hfit, heq⟩ | ⟨_, hgiven⟩
  · rw [heq]
    exact h
  · rw [heq]
    exact h
  · obtain ⟨hreceived, hhash, hle, hsize⟩ := h.receiving hstate
    have hwrap := Nat.mod_eq_of_lt (h.no_wrap hstate hdata)
    rw [heq]
    refine ⟨fun _ => ⟨?_, ?_, hfit, hsize⟩, ?_⟩
    · simp only [absorbed, List.length_append]
      omega
    · simp only [absorbed, hhash]
    · simp [absorbed, hstate]
  · exact .givenUp hgiven.state

/-- An end keeps the updater in step. -/
theorem InStep.finishPreparedInstall {crypto : Crypto} (h : InStep crypto s) (p : Platform) :
    InStep crypto (finishPreparedInstall crypto p s).1 := by
  rcases finishPreparedInstall_cases crypto p s with ⟨_, heq⟩ | ⟨hstate, hcomplete, heq⟩ |
      ⟨_, hgiven⟩
  · rw [heq]
    exact h
  · obtain ⟨hreceived, hhash, _, _⟩ := h.receiving hstate
    simp only [complete, Bool.and_eq_true, beq_iff_eq] at hcomplete
    rw [heq]
    refine ⟨by simp [sealedImage], fun _ => ⟨?_, ?_⟩⟩
    · exact hreceived.symm.trans hcomplete.1.1
    · rw [hhash] at hcomplete
      exact hcomplete.2
  · exact .givenUp hgiven.state

/-- A package keeps the updater in step. -/
theorem InStep.preparePackage (h : InStep fw.crypto s) (p : Platform)
    (manifest signature : String) :
    InStep fw.crypto (preparePackage fw p manifest signature s).1 := by
  cases hcan : canPreparePackage s with
  | false =>
    rw [preparePackage_busy hcan]
    exact { h with }
  | true =>
    obtain ⟨package, error, heq, _⟩ := preparePackage_cases fw p manifest signature s
    rw [heq]
    apply InStep.of_outside <;> intro hstate <;> dsimp only at hstate <;>
      simp [canPreparePackage, hstate] at hcan

/-- A tick keeps the updater in step. -/
theorem InStep.tick {crypto : Crypto} (h : InStep crypto s) (profile : BuildProfile) (p : Platform)
    (ready : Bool) : InStep crypto (tick profile p ready s) := by
  rcases tick_cases profile p ready s with heq | ⟨_, heq⟩ | ⟨_, _, _, heq⟩ | ⟨_, _, _, heq⟩ <;>
    rw [heq]
  · exact h
  · exact { h with }
  · rcases acceptImage_outside p s with hvalid | hfailed
    · exact .of_outside (by simp [hvalid]) (by simp [hvalid])
    · exact .of_outside (by simp [hfailed]) (by simp [hfailed])
  · exact .of_outside (by simp [rejectImage, setState]) (by simp [rejectImage, setState])

/-- Promised calls keep a sound service in step. -/
theorem inStep_call {s : Updater} {c : Call} (h : Sound fw s ∧ InStep fw.crypto s)
    (hc : c.Promised) : Sound fw (call fw s c) ∧ InStep fw.crypto (call fw s c) := by
  have hallows : c.Allows SmallSlot (· ≤ 65536) := hc
  refine call_preserves (I := fun s => Sound fw s ∧ InStep fw.crypto s) ?_ ?_ ?_ ?_ ?_ ?_ h hallows
  · exact fun _ _ h => ⟨{ h.1 with }, { h.2 with }⟩
  · exact fun p m sig _ h => ⟨h.1.preparePackage p m sig, h.2.preparePackage p m sig⟩
  · exact fun p _ hsmall h => ⟨h.1.beginPreparedInstall p, .beginPreparedInstall hsmall⟩
  · exact fun p data _ hdata h => ⟨h.1.writePreparedChunk p data, h.2.writePreparedChunk p hdata⟩
  · exact fun p _ h => ⟨h.1.finishPreparedInstall p, h.2.finishPreparedInstall p⟩
  · exact fun p ready _ h => ⟨h.1.tick p ready, h.2.tick fw.profile p ready⟩

/-- Every run of promised calls keeps the service in step. -/
theorem inStep_run (p : Platform) (pending ready : Bool) {calls : List Call}
    (hcalls : ∀ c ∈ calls, c.Promised) :
    InStep fw.crypto (run (call fw) (boot p pending ready) calls) := by
  have hboot : InStep fw.crypto (boot p pending ready) := by
    cases pending <;>
      exact .of_outside (by simp [boot, begin, setState]) (by simp [boot, begin, setState])
  have hpromised : Throughout (call fw) (fun _ c => c.Promised) (boot p pending ready) calls := by
    rw [throughout_iff]
    intro before c after hsplit
    exact hcalls c (by rw [hsplit]; simp)
  exact (run_invariant_of_throughout (I := fun s => Sound fw s ∧ InStep fw.crypto s)
    (fun _ _ h hc => inStep_call h hc) ⟨sound_boot fw p pending ready, hboot⟩ hpromised).2

/-- A device that knows the sample package. -/
def sampleDevice : Firmware ℕ := ⟨sampleJson, sampleCrypto, {}⟩

/-- The service when the sample package has been prepared. -/
def samplePrepared : Updater := { preparedMetadata := sampleMetadata }

/-- Where packages may be prepared, the sample package is. -/
theorem sample_preparePackage {s : Updater} (h : canPreparePackage s = true) :
    preparePackage sampleDevice {} sampleManifest "MAA=" s =
      ({ s with preparedMetadata := sampleMetadata, lastError := "" }, .ok ()) :=
  preparePackage_of_checked h sampleManifest_checked (by decide)

/-- The sample package passes every check. -/
theorem samplePrepare_run : run (call sampleDevice) (boot {} false true)
    [.postPrepare {} (some sampleManifest) (some "MAA=")] = samplePrepared := by
  have hcan : canPreparePackage (boot {} false true) = true := by decide
  rw [run_cons, run_nil, call, if_neg (by decide), perform, postPrepare,
    sample_preparePackage hcan]
  decide

/-- Uploading the sample package, a byte at a time. -/
def sampleUpload : List Call := [.upload {} 0 [0xe9] false, .upload {} 1 [0x01] true]

/-- The service when the sample package has been installed. -/
def sampleSealed : Updater where
  updateState := .pendingReboot
  receivedBytes := 2
  uploadHash := sampleFirmware
  preparedMetadata := sampleMetadata
  device := { sessions := 1, written := sampleFirmware }

/-- The sample package can be installed. -/
theorem sampleInstall_run : run (call sampleDevice) (boot {} false true)
    (.postPrepare {} (some sampleManifest) (some "MAA=")::sampleUpload) = sampleSealed := by
  rw [← List.singleton_append, run_append, samplePrepare_run]
  decide

end ProjEsp32.FirmwareUpdateRuns
