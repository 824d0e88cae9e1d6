import ProjEsp32.FirmwareUpdateRuns

/-!
# Whose bytes an install session takes

Upload callbacks of any number of HTTP requests and the turns of remote apply
workers, in any order. The service keeps one session for all of them. Beside
it stand two records that no step reads: who opened the session, and who
brought each byte that was passed to `Update.write` since.
-/

namespace ProjEsp32.UploadSessions

open ArduinoJson CheckedResult FirmwarePackageVerifier FirmwareUpdate RemoteTransfer
open FirmwareUpdateRuns TransitionRuns

variable {α : Type}

/-- Whoever can open a session. -/
inductive Party where
  | request (id : ℕ)
  | worker (id : ℕ)
  deriving DecidableEq

/-- Where an apply worker stands between its calls of the service. -/
inductive WorkerPhase where
  /-- Not started. -/
  | outside
  /-- It has copied the metadata and will open a session. -/
  | opening (expectedSize : ℕ)
  /-- In the download loop. -/
  | downloading (expectedSize total lastProgress : ℕ)
  /-- Everything has arrived. -/
  | finishing
  | ended (result : Except String Unit)

/-- The service, its apply workers and the two records. -/
structure Uploads where
  /-- The update service. -/
  updater : Updater
  /-- Where each apply worker stands. -/
  workers : ℕ → WorkerPhase := fun _ => .outside
  /-- Who made the latest successful call of `Update.begin`. -/
  opener : Option Party := none
  /-- Who brought each byte of `updater.device.written`. -/
  sources : List Party := []

/-- One step of a party, or a call of the service that is none of theirs. -/
inductive Step where
  | callback (request : ℕ) (p : Platform) (index : ℕ) (data : List UInt8) (final : Bool)
  | workerStarts (worker : ℕ) (inputs : ApplyInputs) (localBase : String)
  | workerOpens (worker : ℕ) (p : Platform) (clock : ℕ)
  | workerPolls (worker : ℕ) (poll : Poll)
  | workerFinishes (worker : ℕ) (p : Platform)
  | postPrepare (p : Platform) (manifest signature : Option String)
  | checkWorker (inputs : CheckInputs) (localManifestUrl : String)
  | tick (p : Platform) (criticalStorageReady : Bool)

/-- What follows the download loop; the error is empty after a disconnect. -/
def leaveLoop (expectedSize total : ℕ) (error : String) : WorkerPhase :=
  if error.length != 0 then .ended (.error error)
  else if total != expectedSize then .ended (.error "firmware_read_incomplete")
  else .finishing

/-- The head of the download loop: it is left when enough has arrived. -/
def loopHead (expectedSize total lastProgress : ℕ) : WorkerPhase :=
  if expectedSize ≤ total then leaveLoop expectedSize total ""
  else .downloading expectedSize total lastProgress

/-- One turn of the download loop. -/
def turn (expectedSize total lastProgress : ℕ) (poll : Poll) (s : Updater) :
    Updater × WorkerPhase :=
  if poll.available ≤ 0 then
    if !poll.connected then (s, leaveLoop expectedSize total "")
    else if poll.timedOut lastProgress then
      (s, leaveLoop expectedSize total "firmware_read_timeout")
    else (s, .downloading expectedSize total lastProgress)
  else
    let read := poll.read (min DOWNLOAD_CHUNK_BYTES (expectedSize - total))
    if read = [] then (s, leaveLoop expectedSize total "firmware_read_failed")
    else
      match writePreparedChunk poll.platform read s with
      | (s, .error error) => (s, leaveLoop expectedSize total error)
      | (s, .ok _) => (s, loopHead expectedSize (total + read.length) (poll.clock % 2^32))

/-- A party has made calls that left the service so: a new session is its own,
and so are the bytes that were added to the one that was there. -/
def Uploads.credit (u : Uploads) (party : Party) (s : Updater) : Uploads :=
  if s.device.sessions = u.updater.device.sessions then
    let added := s.device.written.length - u.updater.device.written.length
    { u with updater := s, sources := u.sources ++ List.replicate added party }
  else
    { u with updater := s, opener := some party
             sources := List.replicate s.device.written.length party }

/-- A worker moves on. -/
def Uploads.setWorker (u : Uploads) (worker : ℕ) (next : WorkerPhase) : Uploads :=
  { u with workers := Function.update u.workers worker next }

/-- What one step does while the device runs. A worker's step that does not
belong to its phase is not taken. -/
def perform (fw : Firmware α) (u : Uploads) : Step → Uploads
  | .callback request p index data final =>
    u.credit (.request request) (upload fw.crypto p index data final u.updater)
  | .workerStarts worker inputs localBase =>
    match u.workers worker with
    | .outside =>
      let expected := u.updater.preparedMetadata
      match applyWorkerStarts fw.profile inputs localBase expected with
      | .error error => u.setWorker worker (.ended (.error error))
      | .ok _ => u.setWorker worker (.opening expected.size)
    | _ => u
  | .workerOpens worker p clock =>
    match u.workers worker with
    | .opening expectedSize =>
      match beginPreparedInstall p u.updater with
      | (s, .error error) =>
        (u.credit (.worker worker) s).setWorker worker
          (.ended (.error ("install_begin_" ++ error)))
      | (s, .ok _) =>
        (u.credit (.worker worker) s).setWorker worker (loopHead expectedSize 0 (clock % 2^32))
    | _ => u
  | .workerPolls worker poll =>
    match u.workers worker with
    | .downloading expectedSize total lastProgress =>
      let (s, next) := turn expectedSize total lastProgress poll u.updater
      (u.credit (.worker worker) s).setWorker worker next
    | _ => u
  | .workerFinishes worker p =>
    match u.workers worker with
    | .finishing =>
      match finishPreparedInstall fw.crypto p u.updater with
      | (s, .error error) =>
        (u.credit (.worker worker) s).setWorker worker
          (.ended (.error ("install_finish_" ++ error)))
      | (s, .ok _) => (u.credit (.worker worker) s).setWorker worker (.ended (.ok ()))
    | _ => u
  | .postPrepare p manifest signature =>
    { u with updater := FirmwareUpdate.postPrepare fw p manifest signature u.updater }
  | .checkWorker inputs url => { u with updater := (checkWorkerBody fw inputs url u.updater).1 }
  | .tick p ready => { u with updater := FirmwareUpdate.tick fw.profile p ready u.updater }

/-- One step; a restarted device takes none in this boot. -/
def step (fw : Firmware α) (u : Uploads) (taken : Step) : Uploads :=
  if u.updater.device.restarted then u else perform fw u taken

/-- The service after a boot. -/
def boot (p : Platform) (runningPendingVerify criticalStorageReady : Bool) : Uploads :=
  { updater := FirmwareUpdate.boot p runningPendingVerify criticalStorageReady }

/-! ### What a call does to the log of the device -/

section Log

variable {s : Updater}

/-- A begin starts a session with no bytes, or leaves the log alone. -/
theorem beginPreparedInstall_device (p : Platform) (s : Updater) :
    (beginPreparedInstall p s).1.device =
      if opens p s then { s.device with sessions := s.device.sessions + 1, written := [] }
      else s.device := by
  cases hopens : opens p s with
  | true =>
    rw [beginPreparedInstall_ok hopens]
    rfl
  | false =>
    simp only [beginPreparedInstall, beginUploadHash, clearUploadHash_eq, setState, failWith,
      failUpdate_eq, Bool.false_eq_true, if_false]
    split
    · rfl
    · split
      · rfl
      · cases hhash : p.hashStarts with
        | false => rfl
        | true =>
          cases hbegin : p.updateBegins with
          | false => rfl
          | true => simp_all [opens]

/-- The chunk is passed to `Update.write`. -/
def reachesFlash (p : Platform) (data : List UInt8) (s : Updater) : Bool :=
  s.updateState == .receiving && decide (data ≠ []) && s.uploadHashActive && p.hashUpdates &&
    decide ((s.receivedBytes + data.length) % 2^32 ≤ s.preparedMetadata.size)

/-- A chunk is logged exactly when it reaches the flash. -/
theorem writePreparedChunk_device (p : Platform) (data : List UInt8) (s : Updater) :
    (writePreparedChunk p data s).1.device =
      if reachesFlash p data s then { s.device with written := s.device.written ++ data }
      else s.device := by
  by_cases hstate : s.updateState = .receiving
  · unfold writePreparedChunk
    rw [if_neg (by simp [hstate])]
    by_cases hfull : s.preparedMetadata.size < (s.receivedBytes + data.length) % 2^32
    · have hreaches : reachesFlash p data s = false := by
        rw [reachesFlash, decide_eq_false (Nat.not_le.mpr hfull), Bool.and_false]
      rw [if_pos hfull, hreaches]
      simp [failWith, failUpdate_eq]
    · rw [if_neg hfull]
      by_cases hdata : data = []
      · simp [reachesFlash, hdata]
      · rw [if_neg (by simpa using hdata)]
        have hreaches : reachesFlash p data s = (s.uploadHashActive && p.hashUpdates) := by
          rw [reachesFlash, decide_eq_true (Nat.le_of_not_lt hfull), Bool.and_true]
          simp [hstate, hdata]
        rw [hreaches, updateUploadHash]
        cases hhash : s.uploadHashActive && p.hashUpdates with
        | false => simp [failWith, failUpdate_eq]
        | true =>
          simp only [if_true]
          split
          · simp only [failWith, failUpdate_eq]
          · rfl
  · rw [writePreparedChunk_idle hstate]
    simp [reachesFlash, hstate]

/-- Finishing logs nothing. -/
theorem finishPreparedInstall_device (crypto : Crypto) (p : Platform) (s : Updater) :
    (finishPreparedInstall crypto p s).1.device = s.device := by
  simp only [finishPreparedInstall, finishUploadHash_eq, setState, failWith, failUpdate_eq]
  split
  · rfl
  · split
    · rfl
    · cases s.uploadHashActive && p.hashFinishes with
      | false => rfl
      | true =>
        simp only [if_true]
        split
        · rfl
        · split <;> rfl

/-- The first callback of a part opens a session and goes on like a later one,
or gives the update up. -/
theorem upload_first (crypto : Crypto) (p : Platform) (data : List UInt8) (final : Bool)
    (s : Updater) :
    upload crypto p 0 data final s =
      if opens p s then upload crypto p 1 data final (opened p s)
      else (beginPreparedInstall p s).1 := by
  cases hopens : opens p s with
  | true => simp [upload, beginPreparedInstall_ok hopens]
  | false =>
    obtain ⟨text, herror⟩ := (beginPreparedInstall_givesUp hopens).error
    have hout : beginPreparedInstall p s = ((beginPreparedInstall p s).1, .error text) :=
      Prod.ext rfl herror
    unfold upload
    rw [if_pos rfl, hout]
    rfl

/-- A later callback does nothing outside of a session. -/
theorem upload_later_idle {crypto : Crypto} {p : Platform} {index : ℕ} {data : List UInt8}
    {final : Bool} (hindex : index ≠ 0) (hstate : s.updateState ≠ .receiving) :
    upload crypto p index data final s = s := by
  simp [upload, hindex, hstate]

/-- A later callback without data finishes, or does nothing. -/
theorem upload_later_empty {crypto : Crypto} {p : Platform} {index : ℕ} {final : Bool}
    (hindex : index ≠ 0) (hstate : s.updateState = .receiving) :
    upload crypto p index [] final s =
      if final then (finishPreparedInstall crypto p s).1 else s := by
  simp [upload, hindex, hstate]

/-- A later callback with data writes them, and may go on to finish. -/
theorem upload_later_data (crypto : Crypto) (p : Platform) {index : ℕ} {data : List UInt8}
    (final : Bool) (hindex : index ≠ 0) (hstate : s.updateState = .receiving) (hdata : data ≠ []) :
    upload crypto p index data final s = (writePreparedChunk p data s).1 ∨
      upload crypto p index data final s =
        (finishPreparedInstall crypto p (writePreparedChunk p data s).1).1 := by
  have hlength : 0 < data.length := List.length_pos_of_ne_nil hdata
  unfold upload
  rw [if_neg hindex]
  dsimp only
  rw [if_neg (by simp [hstate]), if_pos hlength]
  cases hwrote : writePreparedChunk p data s with
  | mk t result =>
    cases result with
    | error text => exact .inl rfl
    | ok _ =>
      cases final with
      | true => exact .inr rfl
      | false => exact .inl rfl

/-- A later callback opens no session. -/
theorem upload_later_sessions {crypto : Crypto} {p : Platform} {index : ℕ} {data : List UInt8}
    {final : Bool} (hindex : index ≠ 0) :
    (upload crypto p index data final s).device.sessions = s.device.sessions := by
  refine upload_preserves (I := fun t => t.device.sessions = s.device.sessions) ?_ ?_ ?_ rfl
  · exact fun hzero => absurd hzero hindex
  · intro t ht
    rw [writePreparedChunk_device]
    split <;> exact ht
  · intro t ht
    rw [finishPreparedInstall_device]
    exact ht

end Log

/-! ### Isolation -/

/-- The session that was open is still open: not finalized, failed or restarted. -/
structure Continues (s t : Updater) : Prop where
  /-- The session is open. -/
  session : t.updateSessionOpen = true
  /-- Bytes are received into it. -/
  receiving : t.updateState = .receiving
  /-- No other one has been opened. -/
  same : t.device.sessions = s.device.sessions

/-- Every byte of the session was brought by its opener. -/
def OwnBytes (u : Uploads) : Prop := ∀ source ∈ u.sources, u.opener = some source

/-- What a step has to keep: the bytes of a session are its opener's, and the
session goes on when the callback is another request's. -/
def Isolated (fw : Firmware α) (u : Uploads) (taken : Step) : Prop :=
  OwnBytes (step fw u taken) ∧
    ∀ request p index data final, taken = .callback request p index data final →
      u.updater.updateSessionOpen = true → u.opener ≠ some (.request request) →
      Continues u.updater (step fw u taken).updater

/-- A callback of another request than the opener that is the first or the last
of its part or brings data, or a worker other than the opener whose chunk
reaches the flash. -/
def Intrudes (u : Uploads) : Step → Prop
  | .callback request _ index data final =>
    u.updater.device.restarted = false ∧ u.updater.updateSessionOpen = true ∧
      u.opener ≠ some (.request request) ∧ (index = 0 ∨ data ≠ [] ∨ final = true)
  | .workerPolls worker poll =>
    u.updater.device.restarted = false ∧ u.opener ≠ some (.worker worker) ∧
      ∃ expectedSize total lastProgress,
        u.workers worker = .downloading expectedSize total lastProgress ∧
        0 < poll.available ∧
        reachesFlash poll.platform (poll.read (min DOWNLOAD_CHUNK_BYTES (expectedSize - total)))
          u.updater = true
  | _ => False

variable {fw : Firmware α} {u : Uploads} {s : Updater} {party : Party}

/-- A credited call leaves the updater that it returned. -/
@[simp] theorem credit_updater (u : Uploads) (party : Party) (s : Updater) :
    (u.credit party s).updater = s := by
  unfold Uploads.credit
  split <;> rfl

/-- A party may add bytes to its own session, and to one that it starts. -/
theorem OwnBytes.credit (h : OwnBytes u)
    (hown : u.opener = some party ∨ s.device.sessions ≠ u.updater.device.sessions ∨
      s.device.written = u.updater.device.written) : OwnBytes (u.credit party s) := by
  unfold Uploads.credit
  split
  · rename_i hsame
    intro source hsource
    rcases List.mem_append.mp hsource with hbefore | hadded
    · exact h source hbefore
    · obtain ⟨hsome, heq⟩ := List.mem_replicate.mp hadded
      rcases hown with hopener | hnew | hwritten
      · rw [heq]
        exact hopener
      · exact absurd hsame hnew
      · rw [hwritten, Nat.sub_self] at hsome
        exact absurd rfl hsome
  · intro source hsource
    rw [List.eq_of_mem_replicate hsource]

/-- Bytes that a party adds to the session of another are not its opener's. -/
theorem not_ownBytes_credit (hforeign : u.opener ≠ some party)
    (hsame : s.device.sessions = u.updater.device.sessions)
    (hmore : u.updater.device.written.length < s.device.written.length) :
    ¬ OwnBytes (u.credit party s) := by
  intro h
  unfold Uploads.credit at h
  rw [if_pos hsame] at h
  have hmem : party ∈ List.replicate
      (s.device.written.length - u.updater.device.written.length) party :=
    List.mem_replicate.mpr ⟨by omega, rfl⟩
  exact hforeign (h party (List.mem_append_right _ hmem))

/-- A turn of the download loop logs the chunk that it passes on, if any. -/
theorem turn_device (expectedSize total lastProgress : ℕ) (poll : Poll) (s : Updater) :
    (turn expectedSize total lastProgress poll s).1.device =
      let read := poll.read (min DOWNLOAD_CHUNK_BYTES (expectedSize - total))
      if 0 < poll.available ∧ reachesFlash poll.platform read s = true then
        { s.device with written := s.device.written ++ read }
      else s.device := by
  unfold turn
  by_cases havailable : poll.available ≤ 0
  · have hnone : ¬0 < poll.available := Int.not_lt.mpr havailable
    rw [if_pos havailable]
    simp only [hnone, false_and, if_false]
    split
    · rfl
    · split <;> rfl
  · rw [if_neg havailable]
    dsimp only
    generalize poll.read (min DOWNLOAD_CHUNK_BYTES (expectedSize - total)) = read
    by_cases hread : read = []
    · have hreaches : reachesFlash poll.platform read s = false := by simp [reachesFlash, hread]
      rw [if_pos hread, if_neg (by simp [hreaches])]
    · have hdevice := writePreparedChunk_device poll.platform read s
      simp only [Int.not_le.mp havailable, true_and]
      rw [if_neg hread, ← hdevice]
      split <;> rename_i heq <;> rw [heq]

/-- A callback that is the first or last of its part or brings data ends or
restarts the session that is open, or adds to it. -/
theorem upload_disturbs (crypto : Crypto) (p : Platform) {index : ℕ} {data : List UInt8}
    {final : Bool} (hstate : s.updateState = .receiving)
    (hintrudes : index = 0 ∨ data ≠ [] ∨ final = true) :
    ¬ Continues s (upload crypto p index data final s) ∨
      (upload crypto p index data final s).device.sessions = s.device.sessions ∧
        s.device.written.length < (upload crypto p index data final s).device.written.length := by
  by_cases hindex : index = 0
  · left
    intro hcontinues
    subst hindex
    rw [upload_first] at hcontinues
    cases hopens : opens p s with
    | true =>
      rw [hopens, if_pos rfl] at hcontinues
      have hsame := hcontinues.same
      rw [upload_later_sessions (by decide)] at hsame
      simp [opened] at hsame
    | false =>
      rw [hopens, if_neg (by decide)] at hcontinues
      have hfailed := (beginPreparedInstall_givesUp hopens).state.updateState
      rw [hcontinues.receiving] at hfailed
      cases hfailed
  · by_cases hdata : data = []
    · left
      intro hcontinues
      have hfinal : final = true := (hintrudes.resolve_left hindex).resolve_left (not_not.mpr hdata)
      subst hdata
      rw [upload_later_empty hindex hstate, if_pos hfinal] at hcontinues
      have hreceiving := hcontinues.receiving
      rcases finishPreparedInstall_cases crypto p s with ⟨hother, _⟩ | ⟨_, _, heq⟩ | ⟨_, hgiven⟩
      · exact hother hstate
      · rw [heq] at hreceiving
        cases hreceiving
      · rw [hgiven.state.updateState] at hreceiving
        cases hreceiving
    · rcases writePreparedChunk_cases p data s with ⟨hother, _⟩ | ⟨_, hempty, _⟩ |
          ⟨_, _, _, _, _, heq⟩ | ⟨_, hgiven⟩
      · exact absurd hstate hother
      · exact absurd hempty hdata
      · right
        refine ⟨upload_later_sessions hindex, ?_⟩
        have hlength : 0 < data.length := List.length_pos_of_ne_nil hdata
        rcases upload_later_data crypto p final hindex hstate hdata
          with hupload | hupload
        · rw [hupload, heq]
          simp only [absorbed, List.length_append]
          omega
        · rw [hupload, finishPreparedInstall_device, heq]
          simp only [absorbed, List.length_append]
          omega
      · left
        intro hcontinues
        have hreceiving := hcontinues.receiving
        have hfailed := hgiven.state.updateState
        rcases upload_later_data crypto p final hindex hstate hdata
          with hupload | hupload
        · rw [hupload, hfailed] at hreceiving
          cases hreceiving
        · rw [hupload, finishPreparedInstall_idle (by simp [hfailed]), hfailed] at hreceiving
          cases hreceiving

/-- Where no session is open a callback starts one, or logs nothing. -/
theorem upload_closed {crypto : Crypto} {p : Platform} {index : ℕ} {data : List UInt8}
    {final : Bool} (hstate : s.updateState ≠ .receiving) :
    (upload crypto p index data final s).device.sessions ≠ s.device.sessions ∨
      (upload crypto p index data final s).device.written = s.device.written := by
  by_cases hindex : index = 0
  · subst hindex
    rw [upload_first]
    cases hopens : opens p s with
    | true =>
      left
      rw [if_pos rfl, upload_later_sessions (by decide)]
      simp [opened]
    | false =>
      right
      rw [if_neg (by decide), beginPreparedInstall_device, hopens]
      rfl
  · right
    rw [upload_later_idle hindex hstate]

/-- A device that has not been restarted takes the step. -/
theorem step_running (fw : Firmware α) (h : u.updater.device.restarted = false) (taken : Step) :
    step fw u taken = perform fw u taken := by simp [step, h]

/-- A callback is isolated exactly when it does not intrude. -/
theorem isolated_callback (hsound : Sound fw u.updater) (hown : OwnBytes u)
    (hrunning : u.updater.device.restarted = false) (request : ℕ) (p : Platform) (index : ℕ)
    (data : List UInt8) (final : Bool) :
    Isolated fw u (.callback request p index data final) ↔
      ¬ Intrudes u (.callback request p index data final) := by
  have hstep : step fw u (.callback request p index data final) =
      perform fw u (.callback request p index data final) := step_running fw hrunning _
  by_cases hforeign : u.updater.updateSessionOpen = true ∧ u.opener ≠ some (.request request)
  · obtain ⟨hopen, hother⟩ := hforeign
    have hstate := hsound.session hopen
    constructor
    · rintro ⟨hbytes, hothers⟩ ⟨_, _, _, hintrudes⟩
      have hcontinues := hothers request p index data final rfl hopen hother
      rw [hstep] at hbytes hcontinues
      simp only [perform, credit_updater] at hbytes hcontinues
      rcases upload_disturbs fw.crypto p hstate hintrudes with hend | hadds
      · exact hend hcontinues
      · exact not_ownBytes_credit hother hadds.1 hadds.2 hbytes
    · intro hquiet
      have hindex : index ≠ 0 := fun h => hquiet ⟨hrunning, hopen, hother, .inl h⟩
      have hdata : data = [] := by
        by_contra h
        exact hquiet ⟨hrunning, hopen, hother, .inr (.inl h)⟩
      have hfinal : ¬ final = true := fun h => hquiet ⟨hrunning, hopen, hother, .inr (.inr h)⟩
      have hsame : upload fw.crypto p index data final u.updater = u.updater := by
        rw [hdata, upload_later_empty hindex hstate, if_neg hfinal]
      constructor
      · rw [hstep]
        simp only [perform, hsame]
        exact hown.credit (.inr (.inr rfl))
      · intro _ _ _ _ _ heq _ _
        rw [hstep]
        simp only [perform, hsame, credit_updater]
        exact ⟨hopen, hstate, rfl⟩
  · have hquiet : ¬ Intrudes u (.callback request p index data final) :=
      fun h => hforeign ⟨h.2.1, h.2.2.1⟩
    have hbytes : OwnBytes (step fw u (.callback request p index data final)) := by
      rw [hstep]
      by_cases hmine : u.opener = some (.request request)
      · exact hown.credit (.inl hmine)
      · have hstate : u.updater.updateState ≠ .receiving :=
          fun h => hforeign ⟨(hsound.receiving h).1, hmine⟩
        exact hown.credit (.inr (upload_closed hstate))
    refine iff_of_true ⟨hbytes, ?_⟩ hquiet
    intro _ _ _ _ _ heq hopen hother
    cases heq
    exact absurd ⟨hopen, hother⟩ hforeign

/-- A step that is no callback only has to keep the bytes apart. -/
theorem isolated_iff_ownBytes {taken : Step}
    (hother : ∀ request p index data final, taken ≠ .callback request p index data final) :
    Isolated fw u taken ↔ OwnBytes (step fw u taken) :=
  ⟨fun h => h.1, fun h => ⟨h, fun _ _ _ _ _ heq => absurd heq (hother _ _ _ _ _)⟩⟩

/-- A turn of a worker is isolated exactly when it does not intrude. -/
theorem isolated_workerPolls (hown : OwnBytes u) (hrunning : u.updater.device.restarted = false)
    (worker : ℕ) (poll : Poll) :
    Isolated fw u (.workerPolls worker poll) ↔ ¬ Intrudes u (.workerPolls worker poll) := by
  rw [isolated_iff_ownBytes (by simp), step_running fw hrunning]
  simp only [perform]
  split
  · rename_i expectedSize total lastProgress hphase
    have hdevice := turn_device expectedSize total lastProgress poll u.updater
    by_cases hwrites : 0 < poll.available ∧ reachesFlash poll.platform
        (poll.read (min DOWNLOAD_CHUNK_BYTES (expectedSize - total))) u.updater = true
    · rw [if_pos hwrites] at hdevice
      have hdata : poll.read (min DOWNLOAD_CHUNK_BYTES (expectedSize - total)) ≠ [] := by
        intro hempty
        simp [reachesFlash, hempty] at hwrites
      have hlength := List.length_pos_of_ne_nil hdata
      constructor
      · rintro hbytes ⟨_, hforeign, _⟩
        refine not_ownBytes_credit hforeign ?_ ?_ hbytes
        · rw [hdevice]
        · rw [hdevice, List.length_append]
          omega
      · intro hquiet
        have hmine : u.opener = some (.worker worker) := by
          by_contra hforeign
          exact hquiet ⟨hrunning, hforeign, _, _, _, hphase, hwrites⟩
        exact hown.credit (.inl hmine)
    · rw [if_neg hwrites] at hdevice
      refine iff_of_true (hown.credit (.inr (.inr (congrArg Device.written hdevice)))) ?_
      rintro ⟨_, _, _, _, _, hother, hintrudes⟩
      rw [hphase] at hother
      cases hother
      exact hwrites hintrudes
  · rename_i hphase
    refine iff_of_true hown ?_
    rintro ⟨_, _, expectedSize, total, lastProgress, hother, _⟩
    exact hphase expectedSize total lastProgress hother

/-- A worker adds no bytes when it opens a session or finishes one. -/
theorem ownBytes_worker (hown : OwnBytes u) (hrunning : u.updater.device.restarted = false)
    (worker : ℕ) (p : Platform) (clock : ℕ) :
    OwnBytes (step fw u (.workerOpens worker p clock)) ∧
      OwnBytes (step fw u (.workerFinishes worker p)) := by
  rw [step_running fw hrunning, step_running fw hrunning]
  simp only [perform]
  constructor
  · split
    · have hdevice := beginPreparedInstall_device p u.updater
      have hcredit : OwnBytes (u.credit (.worker worker) (beginPreparedInstall p u.updater).1) := by
        refine hown.credit (.inr ?_)
        cases hopens : opens p u.updater with
        | true =>
          left
          simp [hdevice, hopens]
        | false =>
          right
          simp [hdevice, hopens]
      split <;> rename_i heq <;> rw [heq] at hcredit <;> exact hcredit
    · exact hown
  · split
    · have hdevice := finishPreparedInstall_device fw.crypto p u.updater
      have hcredit :
          OwnBytes (u.credit (.worker worker) (finishPreparedInstall fw.crypto p u.updater).1) :=
        hown.credit (.inr (.inr (congrArg Device.written hdevice)))
      split <;> rename_i heq <;> rw [heq] at hcredit <;> exact hcredit
    · exact hown

/-- A step of a sound service whose session has only bytes of its opener is
isolated exactly when it does not intrude. -/
theorem isolated_iff (hsound : Sound fw u.updater) (hown : OwnBytes u) (taken : Step) :
    Isolated fw u taken ↔ ¬ Intrudes u taken := by
  cases hrestarted : u.updater.device.restarted with
  | true =>
    have hstep : step fw u taken = u := by simp [step, hrestarted]
    refine iff_of_true ⟨?_, ?_⟩ ?_
    · rw [hstep]
      exact hown
    · intro _ _ _ _ _ _ hopen _
      rw [hstep]
      exact ⟨hopen, hsound.session hopen, rfl⟩
    · cases taken <;> simp [Intrudes, hrestarted]
  | false =>
    cases taken with
    | callback request p index data final =>
      exact isolated_callback hsound hown hrestarted request p index data final
    | workerPolls worker poll => exact isolated_workerPolls hown hrestarted worker poll
    | workerStarts worker inputs localBase =>
      rw [isolated_iff_ownBytes (by simp), step_running fw hrestarted]
      refine iff_of_true ?_ fun h => h
      simp only [perform]
      split
      · split <;> exact hown
      · exact hown
    | workerOpens worker p clock =>
      rw [isolated_iff_ownBytes (by simp)]
      exact iff_of_true (ownBytes_worker hown hrestarted worker p clock).1 fun h => h
    | workerFinishes worker p =>
      rw [isolated_iff_ownBytes (by simp)]
      exact iff_of_true (ownBytes_worker hown hrestarted worker p 0).2 fun h => h
    | postPrepare p manifest signature =>
      rw [isolated_iff_ownBytes (by simp), step_running fw hrestarted]
      exact iff_of_true hown fun h => h
    | checkWorker inputs url =>
      rw [isolated_iff_ownBytes (by simp), step_running fw hrestarted]
      exact iff_of_true hown fun h => h
    | tick p ready =>
      rw [isolated_iff_ownBytes (by simp), step_running fw hrestarted]
      exact iff_of_true hown fun h => h

/-- A turn of the loop keeps the updater sound. -/
theorem sound_turn (hsound : Sound fw s) (expectedSize total lastProgress : ℕ) (poll : Poll) :
    Sound fw (turn expectedSize total lastProgress poll s).1 := by
  unfold turn
  split
  · split
    · exact hsound
    · split <;> exact hsound
  · dsimp only
    split
    · exact hsound
    · have hwritten := hsound.writePreparedChunk poll.platform
        (poll.read (min DOWNLOAD_CHUNK_BYTES (expectedSize - total)))
      split <;> rename_i heq <;> rw [heq] at hwritten <;> exact hwritten

/-- Every step keeps the service sound. -/
theorem sound_step (hsound : Sound fw u.updater) (taken : Step) :
    Sound fw (step fw u taken).updater := by
  unfold step
  split
  · exact hsound
  · cases taken with
    | callback request p index data final =>
      simp only [perform, credit_updater]
      exact upload_preserves (fun _ _ h => h.beginPreparedInstall p)
        (fun _ h => h.writePreparedChunk p data) (fun _ h => h.finishPreparedInstall p) hsound
    | workerStarts worker inputs localBase =>
      simp only [perform]
      split
      · split <;> exact hsound
      · exact hsound
    | workerOpens worker p clock =>
      have hopened := hsound.beginPreparedInstall p
      simp only [perform]
      split
      · split <;> rename_i heq <;> rw [heq] at hopened <;>
          simpa only [Uploads.setWorker, credit_updater] using hopened
      · exact hsound
    | workerPolls worker poll =>
      simp only [perform]
      split
      · simp only [Uploads.setWorker, credit_updater]
        exact sound_turn hsound _ _ _ poll
      · exact hsound
    | workerFinishes worker p =>
      have hfinished := hsound.finishPreparedInstall p
      simp only [perform]
      split
      · split <;> rename_i heq <;> rw [heq] at hfinished <;>
          simpa only [Uploads.setWorker, credit_updater] using hfinished
      · exact hsound
    | postPrepare p manifest signature =>
      simp only [perform, FirmwareUpdate.postPrepare]
      split
      · exact hsound.preparePackage p _ _
      · exact { hsound with }
    | checkWorker inputs url =>
      exact checkWorkerBody_preserves (fun p m sig _ h => h.preparePackage p m sig) inputs url
        hsound
    | tick p ready => exact hsound.tick p ready

/-- Upload sessions are isolated in a run exactly when no step of it intrudes. -/
theorem isolated_run (fw : Firmware α) (p : Platform) (pending ready : Bool) (steps : List Step) :
    Throughout (step fw) (Isolated fw) (boot p pending ready) steps ↔
      Throughout (step fw) (fun u taken => ¬ Intrudes u taken) (boot p pending ready) steps := by
  refine throughout_congr (I := fun u => Sound fw u.updater ∧ OwnBytes u) ?_ ?_ ?_ steps
  · exact fun u taken h hisolated => ⟨sound_step h.1 taken, hisolated.1⟩
  · exact fun u taken h => isolated_iff h.1 h.2 taken
  · exact ⟨sound_boot fw p pending ready, fun source hsource => by cases hsource⟩

/-- Request 1 starts before anything is prepared and fails. Then a package is
prepared and request 0 opens a session, into which a late callback of request 1
writes its byte and which it finalizes. -/
def lateCallback : List Step :=
  [.callback 1 {} 0 [0xe9] false, .postPrepare {} (some sampleManifest) (some "MAA="),
    .callback 0 {} 0 [0xe9] false, .callback 1 {} 1 [0x01] true]

/-- The service of `lateCallback` when the package is prepared. -/
def latePrepared : Uploads :=
  { updater := { updateState := .failed, preparedMetadata := sampleMetadata } }

/-- The first two steps lead to the prepared updater. -/
theorem latePrepared_run :
    run (step sampleDevice) (boot {} false true) (lateCallback.take 2) = latePrepared := by
  have hfailed : (step sampleDevice (boot {} false true) (.callback 1 {} 0 [0xe9] false)) =
      { updater :=
          { updateState := .failed, lastError := "signed_package_not_prepared" } } := rfl
  have hprepare := sample_preparePackage
    (s := { updateState := .failed, lastError := "signed_package_not_prepared" }) (by decide)
  simp only [lateCallback, List.take, run_cons, run_nil, hfailed]
  rw [step, if_neg (by decide), perform, FirmwareUpdate.postPrepare, hprepare]
  rfl

/-- The image that is selected for boot has a byte from each request. -/
theorem isolated_lateCallback :
    (run (step sampleDevice) (boot {} false true) lateCallback).updater = sampleSealed ∧
      (run (step sampleDevice) (boot {} false true) lateCallback).sources =
        [.request 0, .request 1] ∧
      ¬ Throughout (step sampleDevice) (Isolated sampleDevice) (boot {} false true)
        lateCallback := by
  have hsplit : lateCallback = lateCallback.take 2 ++
      [.callback 0 {} 0 [0xe9] false, .callback 1 {} 1 [0x01] true] := rfl
  have hrun : run (step sampleDevice) (boot {} false true) lateCallback =
      run (step sampleDevice) latePrepared
        [.callback 0 {} 0 [0xe9] false, .callback 1 {} 1 [0x01] true] := by
    rw [hsplit, run_append, latePrepared_run]
  have hmeets : run (step sampleDevice) (boot {} false true) (lateCallback.take 3) =
      step sampleDevice latePrepared (.callback 0 {} 0 [0xe9] false) := by
    have htake : lateCallback.take 3 = lateCallback.take 2 ++ [.callback 0 {} 0 [0xe9] false] := rfl
    rw [htake, run_append, latePrepared_run, run_cons, run_nil]
  have hother : some (Party.request 0) ≠ some (.request 1) := by decide
  refine ⟨?_, ?_, fun hisolated => ?_⟩
  · rw [hrun]
    decide
  · rw [hrun]
    decide
  · rw [isolated_run, throughout_iff] at hisolated
    refine hisolated (lateCallback.take 3) _ [] rfl ?_
    rw [hmeets]
    exact ⟨by decide, by decide, hother, .inr (.inr rfl)⟩

end ProjEsp32.UploadSessions
