import ProjEsp32.FirmwareUpdateRuns

/-!
# Entering the install path

`beginPreparedInstall` tests the package but not the update state, and it is
reached from the upload route, from the remote worker and directly. Two states
were meant to be left in one way only: PENDING_VERIFY by a verdict on the
running image, PENDING_REBOOT by the restart. Both hold in every run exactly
as long as no call enters the install path there.
-/

namespace ProjEsp32.InstallEntry

open ArduinoJson CheckedResult FirmwarePackageVerifier FirmwareUpdate RemoteTransfer
open FirmwareUpdateRuns TransitionRuns

variable {α : Type}

/-- The call reaches `beginPreparedInstall`: the first part of an upload, a
direct call, or an apply worker that gets through its own tests. -/
def entersInstall (fw : Firmware α) (s : Updater) (c : Call) : Bool :=
  !s.device.restarted && match c with
    | .upload _ index _ _ => index == 0
    | .beginPreparedInstall _ => true
    | .applyWorker inputs localBase =>
      match applyWorkerStarts fw.profile inputs localBase s.preparedMetadata with
      | .ok _ => true
      | .error _ => false
    | _ => false

/-- The platform that a call meets when it opens a session. -/
def openingPlatform : Call → Platform
  | .upload p _ _ _ => p
  | .beginPreparedInstall p => p
  | .applyWorker inputs _ => inputs.opening
  | _ => {}

/-! ### What entering does -/

/-- Writing a chunk opens no session. -/
theorem writePreparedChunk_sessions (p : Platform) (data : List UInt8) (s : Updater) :
    (writePreparedChunk p data s).1.device.sessions = s.device.sessions := by
  rcases writePreparedChunk_cases p data s with ⟨_, heq⟩ | ⟨_, _, heq⟩ |
      ⟨_, _, _, _, _, heq⟩ | ⟨_, hgiven⟩
  · rw [heq]
  · rw [heq]
  · rw [heq]
    rfl
  · exact hgiven.state.sessions

/-- Finishing opens no session. -/
theorem finishPreparedInstall_sessions (crypto : Crypto) (p : Platform) (s : Updater) :
    (finishPreparedInstall crypto p s).1.device.sessions = s.device.sessions := by
  rcases finishPreparedInstall_cases crypto p s with ⟨_, heq⟩ | ⟨_, _, heq⟩ | ⟨_, hgiven⟩
  · rw [heq]
  · rw [heq]
    rfl
  · exact hgiven.state.sessions

/-- The first part of an upload is the opening of a session and a further part. -/
theorem upload_zero {crypto : Crypto} {p : Platform} {data : List UInt8} {final : Bool}
    {s : Updater} (h : opens p s = true) :
    upload crypto p 0 data final s = upload crypto p 1 data final (opened p s) := by
  unfold upload
  rw [if_pos rfl, if_neg Nat.one_ne_zero, beginPreparedInstall_ok h]

/-- An upload without a package, a partition, a hash or a flash writer gives
the update up. -/
theorem upload_zero_givesUp {crypto : Crypto} {p : Platform} {data : List UInt8} {final : Bool}
    {s : Updater} (h : opens p s = false) : GivenUp s (upload crypto p 0 data final s) := by
  obtain ⟨⟨text, herror⟩, hgiven⟩ := beginPreparedInstall_givesUp h
  have hout : beginPreparedInstall p s = ((beginPreparedInstall p s).1, .error text) := by
    rw [← herror]
  have heq : upload crypto p 0 data final s = (beginPreparedInstall p s).1 := by
    unfold upload
    rw [if_pos rfl, hout]
  rw [heq]
  exact hgiven

/-- A further part of an upload opens no session. -/
theorem upload_one_sessions (crypto : Crypto) (p : Platform) (data : List UInt8) (final : Bool)
    (s : Updater) : (upload crypto p 1 data final s).device.sessions = s.device.sessions :=
  upload_preserves (I := fun t => t.device.sessions = s.device.sessions)
    (fun h => absurd h Nat.one_ne_zero)
    (fun t ht => (writePreparedChunk_sessions p data t).trans ht)
    (fun t ht => (finishPreparedInstall_sessions crypto p t).trans ht) rfl

/-- An apply worker that gets through its tests gives the update up or opens
one session, which is the only one. -/
theorem applyWorkerBody_entered {fw : Firmware α} {inputs : ApplyInputs} {localBase : String}
    {s : Updater} {u : Unit}
    (hstarts : applyWorkerStarts fw.profile inputs localBase s.preparedMetadata = .ok u) :
    (opens inputs.opening s = false ∧ GivenUp s (applyWorkerBody fw inputs localBase s).1) ∨
      (opens inputs.opening s = true ∧
        (applyWorkerBody fw inputs localBase s).1.device.sessions = s.device.sessions + 1) := by
  unfold applyWorkerBody
  dsimp only
  rw [hstarts]
  dsimp only
  cases hopens : opens inputs.opening s with
  | false =>
    obtain ⟨⟨text, herror⟩, hgiven⟩ := beginPreparedInstall_givesUp hopens
    left
    split
    · rename_i h
      rw [h] at hgiven
      exact ⟨rfl, hgiven⟩
    · rename_i h
      rw [h] at herror
      cases herror
  | true =>
    right
    refine ⟨rfl, ?_⟩
    rw [beginPreparedInstall_ok hopens]
    dsimp only
    have hloop := downloadLoop_preserves
      (I := fun t => t.device.sessions = s.device.sessions + 1) (L := fun _ => True)
      (fun _ _ => trivial) (fun p data t _ ht => (writePreparedChunk_sessions p data t).trans ht)
      s.preparedMetadata.size inputs.firmware.polls 0 (inputs.firmware.clock % 2^32)
      (show (opened inputs.opening s).device.sessions = s.device.sessions + 1 from rfl)
    split
    · rename_i h
      rw [h] at hloop
      exact hloop
    · rename_i t _ _ h
      rw [h] at hloop
      have hfinish := (finishPreparedInstall_sessions fw.crypto inputs.finishing t).trans hloop
      split
      · exact hloop
      · split
        · exact hloop
        · split <;> rename_i hend <;> rw [hend] at hfinish <;> exact hfinish

/-- A call that enters the install path gives the update up or opens a session. -/
theorem call_entered {fw : Firmware α} {s : Updater} {c : Call} (h : entersInstall fw s c = true) :
    (opens (openingPlatform c) s = false ∧ GivenUp s (call fw s c)) ∨
      (opens (openingPlatform c) s = true ∧
        (call fw s c).device.sessions = s.device.sessions + 1) := by
  simp only [entersInstall, Bool.and_eq_true, Bool.not_eq_true'] at h
  obtain ⟨hrunning, henters⟩ := h
  simp only [call, hrunning, Bool.false_eq_true, if_false]
  cases c with
  | upload p index data final =>
    have hindex : index = 0 := beq_iff_eq.mp henters
    subst hindex
    cases hopens : opens p s with
    | false => exact .inl ⟨hopens, upload_zero_givesUp hopens⟩
    | true =>
      right
      refine ⟨hopens, ?_⟩
      simp only [perform]
      rw [upload_zero hopens, upload_one_sessions]
      rfl
  | beginPreparedInstall p =>
    cases hopens : opens p s with
    | false => exact .inl ⟨hopens, (beginPreparedInstall_givesUp hopens).state⟩
    | true =>
      right
      refine ⟨hopens, ?_⟩
      simp only [perform]
      rw [beginPreparedInstall_ok hopens]
      rfl
  | applyWorker inputs localBase =>
    dsimp only at henters
    split at henters
    · rename_i hstarts
      exact applyWorkerBody_entered hstarts
    · cases henters
  | postPrepare _ _ _ => cases henters
  | preparePackage _ _ _ => cases henters
  | writePreparedChunk _ _ => cases henters
  | finishPreparedInstall _ => cases henters
  | checkWorker _ _ => cases henters
  | tick _ _ => cases henters

/-! ### What the other calls do -/

/-- An upload part that is not the first one does nothing outside of RECEIVING. -/
theorem upload_idle {crypto : Crypto} {p : Platform} {index : ℕ} {data : List UInt8} {final : Bool}
    {s : Updater} (hindex : index ≠ 0) (hstate : s.updateState ≠ .receiving) :
    upload crypto p index data final s = s := by
  simp [upload, hindex, hstate]

/-- Where no package may be prepared a check worker leaves an error text at most. -/
theorem checkWorkerBody_busy {fw : Firmware α} (inputs : CheckInputs) (url : String) {s : Updater}
    (h : canPreparePackage s = false) :
    ∃ error, (checkWorkerBody fw inputs url s).1 = { s with lastError := error } := by
  unfold checkWorkerBody
  dsimp only
  split
  · exact ⟨_, rfl⟩
  · split
    · exact ⟨_, rfl⟩
    · split
      · exact ⟨_, rfl⟩
      · exact ⟨_, rfl⟩
      · rw [preparePackage_busy h]
        exact ⟨_, rfl⟩

/-- Where no package may be prepared and no session is open, a call that stays
off the install path is a tick or leaves an error text at most. -/
theorem call_unentered {fw : Firmware α} {s : Updater} {c : Call}
    (hbusy : canPreparePackage s = false) (hstate : s.updateState ≠ .receiving)
    (h : entersInstall fw s c = false) :
    (∃ error, call fw s c = { s with lastError := error }) ∨
      ∃ p ready, c = .tick p ready ∧ call fw s c = tick fw.profile p ready s := by
  unfold call
  cases hrestarted : s.device.restarted with
  | true => exact .inl ⟨_, rfl⟩
  | false =>
    simp only [entersInstall, hrestarted, Bool.not_false, Bool.true_and] at h
    simp only [Bool.false_eq_true, if_false]
    cases c with
    | postPrepare p manifest signature =>
      left
      simp only [perform, postPrepare]
      split
      · rw [preparePackage_busy hbusy]
        exact ⟨_, rfl⟩
      · exact ⟨_, rfl⟩
    | preparePackage p manifest signature =>
      left
      simp only [perform]
      rw [preparePackage_busy hbusy]
      exact ⟨_, rfl⟩
    | upload p index data final =>
      left
      refine ⟨s.lastError, ?_⟩
      exact upload_idle (beq_eq_false_iff_ne.mp h) hstate
    | beginPreparedInstall p => cases h
    | writePreparedChunk p data =>
      left
      refine ⟨s.lastError, ?_⟩
      simp only [perform]
      rw [writePreparedChunk_idle hstate]
    | finishPreparedInstall p =>
      left
      refine ⟨s.lastError, ?_⟩
      simp only [perform]
      rw [finishPreparedInstall_idle hstate]
    | checkWorker inputs url => exact .inl (checkWorkerBody_busy inputs url hbusy)
    | applyWorker inputs localBase =>
      left
      dsimp only at h
      split at h
      · cases h
      · rename_i hstarts
        refine ⟨s.lastError, ?_⟩
        simp only [perform, applyWorkerBody]
        rw [hstarts]
    | tick p ready => exact .inr ⟨p, ready, rfl, rfl⟩

/-! ### The verdict on a new image -/

/-- A verdict on the image that was entered at `entry`: it is kept when it is
healthy after ten seconds, and given up when it is not after thirty. -/
inductive Judged (profile : BuildProfile) (entry p : Platform) (ready : Bool) (s t : Updater) : Prop
  where
  | kept (healthy : localHealthOk profile p ready = true)
      (late : entry.clock ≤ p.clock → entry.clock + 10000 ≤ p.clock)
      (verdict : t.device.verdicts = s.device.verdicts ++ [.markValid])
      (state : t.updateState = if p.markValid = 0 then .valid else .failed)
  | givenUp (unhealthy : localHealthOk profile p ready = false)
      (late : entry.clock ≤ p.clock → entry.clock + 30000 ≤ p.clock)
      (verdict : t.device.verdicts = s.device.verdicts ++ [.markInvalid])
      (state : t.updateState = .rollback)

/-- PENDING_VERIFY is left by a tick with a verdict, and not otherwise. -/
def FirstBootVerdict (fw : Firmware α) (entry : Platform) (s : Updater) (c : Call) : Prop :=
  s.updateState = .pendingVerify →
    ((call fw s c).updateState = .pendingVerify ∧
      (call fw s c).device.verdicts = s.device.verdicts) ∨
    ∃ p ready, c = .tick p ready ∧ Judged fw.profile entry p ready s (call fw s c)

/-- The call does not enter the install path of an image without a verdict. -/
def AwaitsVerdict (fw : Firmware α) (s : Updater) (c : Call) : Prop :=
  s.updateState = .pendingVerify → entersInstall fw s c = false

/-- A service that has waited for a verdict since `entry` has no package. -/
structure Waiting (entry : Platform) (s : Updater) : Prop where
  /-- No package is prepared. -/
  unprepared : s.updateState = .pendingVerify → s.preparedMetadata.valid = false
  /-- The state has been entered at the boot. -/
  since : s.updateState = .pendingVerify → s.stateSinceMs = entry.millis

/-- The 32-bit elapsed time is at most the true one. -/
theorem elapsed_le {entry p : Platform} {s : Updater} (hsince : s.stateSinceMs = entry.millis)
    {wait : ℕ} (hlate : wait ≤ elapsed p s) (hclock : entry.clock ≤ p.clock) :
    entry.clock + wait ≤ p.clock := by
  have hentry : s.stateSinceMs = entry.clock % 2^32 := hsince
  simp only [elapsed, Platform.millis] at hlate
  rw [hentry] at hlate
  omega

/-- A tick leaves PENDING_VERIFY with a verdict or not at all. -/
theorem tick_judges {profile : BuildProfile} {entry p : Platform} {ready : Bool} {s : Updater}
    (hstate : s.updateState = .pendingVerify) (hsince : s.stateSinceMs = entry.millis) :
    tick profile p ready s = s ∨ Judged profile entry p ready s (tick profile p ready s) := by
  rcases tick_cases profile p ready s with heq | ⟨hreboot, _⟩ | ⟨_, hhealth, hlate, heq⟩ |
      ⟨_, hhealth, hlate, heq⟩
  · exact .inl heq
  · rw [hstate] at hreboot
    cases hreboot
  · right
    rw [heq]
    obtain ⟨hnext, hverdict, _⟩ := acceptImage_spec p s
    exact .kept hhealth (elapsed_le hsince hlate) hverdict hnext
  · right
    rw [heq]
    exact .givenUp hhealth (elapsed_le hsince hlate) rfl rfl

/-- No call goes back to PENDING_VERIFY; only a boot does. -/
theorem call_not_pendingVerify (fw : Firmware α) {s : Updater} (c : Call)
    (h : s.updateState ≠ .pendingVerify) : (call fw s c).updateState ≠ .pendingVerify := by
  have hc : c.Allows (fun _ => True) (fun _ => True) := by
    cases c <;> simp [Call.Allows]
  refine call_preserves (I := fun s => s.updateState ≠ .pendingVerify) ?_ ?_ ?_ ?_ ?_ ?_ h hc
  · exact fun _ _ h => h
  · intro p manifest signature s h
    obtain ⟨package, error, heq, _⟩ := preparePackage_cases fw p manifest signature s
    rw [heq]
    exact h
  · intro p s _ h
    cases hopens : opens p s with
    | false => simp [(beginPreparedInstall_givesUp hopens).state.updateState]
    | true => simp [beginPreparedInstall_ok hopens, opened]
  · intro p data s _ h
    rcases writePreparedChunk_cases p data s with ⟨_, heq⟩ | ⟨_, _, heq⟩ |
        ⟨_, _, _, _, _, heq⟩ | ⟨_, hgiven⟩
    · rwa [heq]
    · rwa [heq]
    · rwa [heq]
    · simp [hgiven.state.updateState]
  · intro p s h
    rcases finishPreparedInstall_cases fw.crypto p s with ⟨_, heq⟩ | ⟨_, _, heq⟩ | ⟨_, hgiven⟩
    · rwa [heq]
    · simp [heq, sealedImage]
    · simp [hgiven.state.updateState]
  · intro p ready s h
    rcases tick_cases fw.profile p ready s with heq | ⟨_, heq⟩ | ⟨hstate, _⟩ | ⟨hstate, _⟩
    · rwa [heq]
    · rwa [heq]
    · exact absurd hstate h
    · exact absurd hstate h

/-- A verdict ends PENDING_VERIFY. -/
theorem Judged.state_ne {profile : BuildProfile} {entry p : Platform} {ready : Bool}
    {s t : Updater} (h : Judged profile entry p ready s t) : t.updateState ≠ .pendingVerify := by
  cases h with
  | kept _ _ _ hstate =>
    rw [hstate]
    split <;> simp
  | givenUp _ _ _ hstate => simp [hstate]

/-- A call that does not enter the install path keeps an image waiting. -/
theorem Waiting.call {fw : Firmware α} {entry : Platform} {s : Updater} {c : Call}
    (h : Waiting entry s) (hawaits : AwaitsVerdict fw s c) : Waiting entry (call fw s c) := by
  by_cases hstate : s.updateState = .pendingVerify
  · have hbusy : canPreparePackage s = false := by simp [canPreparePackage, hstate]
    rcases call_unentered hbusy (by simp [hstate]) (hawaits hstate) with ⟨error, heq⟩ |
        ⟨p, ready, _, heq⟩
    · rw [heq]
      exact { h with }
    · rw [heq]
      rcases tick_judges hstate (h.since hstate) with hkept | hjudged
      · rw [hkept]
        exact h
      · exact ⟨fun h => absurd h hjudged.state_ne, fun h => absurd h hjudged.state_ne⟩
  · have hnext := call_not_pendingVerify fw c hstate
    exact ⟨fun h => absurd h hnext, fun h => absurd h hnext⟩

/-- While an image waits, one call keeps to the verdict exactly when it stays
off the install path: entering it without a package fails the update. -/
theorem firstBootVerdict_iff_awaitsVerdict {fw : Firmware α} {entry : Platform} {s : Updater}
    (c : Call) (h : Waiting entry s) : FirstBootVerdict fw entry s c ↔ AwaitsVerdict fw s c := by
  constructor
  · intro hverdict hstate
    cases henters : entersInstall fw s c with
    | false => rfl
    | true =>
      rcases call_entered henters with ⟨_, hgiven⟩ | ⟨hopens, _⟩
      · rcases hverdict hstate with ⟨hstays, _⟩ | ⟨p, ready, hcall, _⟩
        · rw [hgiven.updateState] at hstays
          cases hstays
        · rw [hcall] at henters
          simp [entersInstall] at henters
      · simp [opens, h.unprepared hstate] at hopens
  · intro hawaits hstate
    have hbusy : canPreparePackage s = false := by simp [canPreparePackage, hstate]
    rcases call_unentered hbusy (by simp [hstate]) (hawaits hstate) with ⟨error, heq⟩ |
        ⟨p, ready, hcall, heq⟩
    · left
      rw [heq]
      exact ⟨hstate, rfl⟩
    · rw [heq]
      rcases tick_judges hstate (h.since hstate) with hkept | hjudged
      · left
        rw [hkept]
        exact ⟨hstate, rfl⟩
      · exact .inr ⟨p, ready, hcall, hjudged⟩

/-- A new image gets its verdict, at every step of a run that starts in
PENDING_VERIFY, exactly when no call of the run enters the install path before. -/
theorem firstBootVerdict_run (fw : Firmware α) (entry : Platform) (ready : Bool)
    (calls : List Call) :
    Throughout (call fw) (FirstBootVerdict fw entry) (boot entry true ready) calls ↔
      Throughout (call fw) (AwaitsVerdict fw) (boot entry true ready) calls := by
  have hboot : Waiting entry (boot entry true ready) := by
    constructor <;> simp [boot, begin, clearUploadHash_eq, setState, clear]
  refine throughout_congr (I := Waiting entry) ?_ ?_ hboot calls
  · exact fun s c h hverdict => h.call ((firstBootVerdict_iff_awaitsVerdict c h).mp hverdict)
  · exact fun s c h => firstBootVerdict_iff_awaitsVerdict c h

/-- An upload without a package takes a new image out of PENDING_VERIFY without
a verdict. -/
theorem firstBootVerdict_upload : ¬ Throughout (call sampleDevice)
    (FirstBootVerdict sampleDevice {}) (boot {} true true) [.upload {} 0 [0xe9] false] := by
  intro h
  rcases h.1 rfl with ⟨hstays, _⟩ | ⟨p, ready, hcall, _⟩
  · exact absurd hstays (by decide +kernel)
  · cases hcall

/-! ### The seal on a verified image -/

/-- The step neither changes the update state nor opens an update session. -/
def KeepsSeal (fw : Firmware α) (s : Updater) (c : Call) : Prop :=
  (call fw s c).updateState = s.updateState ∧ (call fw s c).device.sessions = s.device.sessions

instance (fw : Firmware α) (s : Updater) (c : Call) : Decidable (KeepsSeal fw s c) :=
  inferInstanceAs (Decidable (_ ∧ _))

/-- In PENDING_REBOOT one call keeps the seal exactly when it stays off the
install path. -/
theorem keepsSeal_iff {fw : Firmware α} {s : Updater} (c : Call)
    (hstate : s.updateState = .pendingReboot) :
    KeepsSeal fw s c ↔ entersInstall fw s c = false := by
  constructor
  · rintro ⟨hkept, hsessions⟩
    cases henters : entersInstall fw s c with
    | false => rfl
    | true =>
      rcases call_entered henters with ⟨_, hgiven⟩ | ⟨_, hopened⟩
      · rw [hgiven.updateState, hstate] at hkept
        cases hkept
      · omega
  · intro h
    have hbusy : canPreparePackage s = false := by simp [canPreparePackage, hstate]
    rcases call_unentered hbusy (by simp [hstate]) h with ⟨error, heq⟩ | ⟨p, ready, _, heq⟩
    · unfold KeepsSeal
      rw [heq]
      exact ⟨rfl, rfl⟩
    · unfold KeepsSeal
      rw [heq]
      rcases tick_cases fw.profile p ready s with htick | ⟨_, htick⟩ | ⟨hother, _⟩ | ⟨hother, _⟩
      · rw [htick]
        exact ⟨rfl, rfl⟩
      · rw [htick]
        exact ⟨rfl, rfl⟩
      · rw [hstate] at hother
        cases hother
      · rw [hstate] at hother
        cases hother

/-- From PENDING_REBOOT on, a run leaves state and slot alone at every step
exactly when none of its calls enters the install path before the restart. -/
theorem sealed_run {fw : Firmware α} {s : Updater} (hstate : s.updateState = .pendingReboot)
    (calls : List Call) :
    Throughout (call fw) (KeepsSeal fw) s calls ↔
      Throughout (call fw) (fun t c => entersInstall fw t c = false) s calls := by
  refine throughout_congr (I := fun t => t.updateState = .pendingReboot) ?_ ?_ hstate calls
  · exact fun t c h hkept => hkept.1.trans h
  · exact fun t c h => keepsSeal_iff c h

/-- The installed sample package stays sealed under a prepare call and a tick,
and an install call is what breaks it. -/
theorem sealed_run_sample :
    Throughout (call sampleDevice) (KeepsSeal sampleDevice) sampleSealed
        [.postPrepare {} none none, .tick { clock := 700 } true, .beginPreparedInstall {}] ↔
      Throughout (call sampleDevice) (fun t c => entersInstall sampleDevice t c = false)
        sampleSealed
        [.postPrepare {} none none, .tick { clock := 700 } true, .beginPreparedInstall {}] :=
  sealed_run rfl _

/-- A second file part of the same request opens the selected slot again. -/
theorem sealed_second_part : ¬ Throughout (call sampleDevice) (KeepsSeal sampleDevice)
    (run (call sampleDevice) (boot {} false true)
      (.postPrepare {} (some sampleManifest) (some "MAA=")::sampleUpload))
    [.upload {} 0 [0x00] false] := by
  rw [sampleInstall_run]
  decide

end ProjEsp32.InstallEntry
