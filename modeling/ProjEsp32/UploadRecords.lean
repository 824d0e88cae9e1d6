import ProjEsp32.UploadSessions

/-!
# The records and the workers of an install session

What backs the account of an install session: the record of the sources has an
entry for each byte that was written, and the steps of an apply worker, taken
without interruption, are the body of `applyWorker`.
-/

namespace ProjEsp32.UploadRecords

open FirmwarePackageVerifier RemoteTransfer TransitionRuns UploadSessions
open FirmwareUpdate hiding boot
open FirmwareUpdateRuns (upload_preserves checkWorkerBody_preserves)

variable {α : Type}

/-! ### The records -/

variable {fw : Firmware α} {u : Uploads} {s : Updater} {party : Party}

/-- Bytes of a session are added, and a new session is counted. -/
def Grows (s t : Updater) : Prop :=
  s.device.sessions ≤ t.device.sessions ∧
    (t.device.sessions = s.device.sessions → s.device.written.length ≤ t.device.written.length)

/-- What leaves the log alone, grows it by nothing. -/
theorem Grows.of_device {s t v : Updater} (h : Grows s t)
    (hdevice : v.device.sessions = t.device.sessions ∧ v.device.written = t.device.written) :
    Grows s v := by
  unfold Grows
  rw [hdevice.1, hdevice.2]
  exact h

/-- A start grows the log. -/
theorem Grows.beginPreparedInstall {t : Updater} (h : Grows s t) (p : Platform) :
    Grows s (beginPreparedInstall p t).1 := by
  have hdevice := beginPreparedInstall_device p t
  cases hopens : opens p t with
  | true =>
    have hless := h.1
    simp only [hopens, if_true] at hdevice
    refine ⟨?_, ?_⟩ <;> rw [hdevice] <;> dsimp only <;> omega
  | false => exact h.of_device (by simp [hdevice, hopens])

/-- A chunk grows the log. -/
theorem Grows.writePreparedChunk {t : Updater} (h : Grows s t) (p : Platform)
    (data : List UInt8) : Grows s (writePreparedChunk p data t).1 := by
  unfold Grows
  rw [writePreparedChunk_device]
  split
  · refine ⟨h.1, fun hsame => ?_⟩
    have hbefore := h.2 hsame
    rw [List.length_append]
    omega
  · exact h

/-- An end grows the log. -/
theorem Grows.finishPreparedInstall {t : Updater} (h : Grows s t) (crypto : Crypto)
    (p : Platform) : Grows s (finishPreparedInstall crypto p t).1 := by
  unfold Grows
  rw [finishPreparedInstall_device]
  exact h

/-- Preparing a package, in whatever way, is not logged. -/
theorem preparePackage_device (fw : Firmware α) (p : Platform) (manifest signature : String)
    (s : Updater) : (preparePackage fw p manifest signature s).1.device = s.device := by
  obtain ⟨package, error, heq, _⟩ := preparePackage_cases fw p manifest signature s
  rw [heq]

/-- A tick gives verdicts and restarts; sessions and bytes stay. -/
theorem tick_log (profile : BuildProfile) (p : Platform) (ready : Bool) (s : Updater) :
    (tick profile p ready s).device.sessions = s.device.sessions ∧
      (tick profile p ready s).device.written = s.device.written := by
  rcases tick_cases profile p ready s with heq | ⟨_, heq⟩ | ⟨_, _, _, heq⟩ | ⟨_, _, _, heq⟩ <;>
    rw [heq]
  · exact ⟨rfl, rfl⟩
  · exact ⟨rfl, rfl⟩
  · unfold acceptImage
    dsimp only
    split
    · exact ⟨rfl, rfl⟩
    · rw [failUpdate_eq]
      exact ⟨rfl, rfl⟩
  · exact ⟨rfl, rfl⟩

/-- There is one record for each byte of the log. -/
def Recorded (u : Uploads) : Prop := u.sources.length = u.updater.device.written.length

/-- A credited call keeps the records. -/
theorem Recorded.credit (h : Recorded u) (hgrows : Grows u.updater s) :
    Recorded (u.credit party s) := by
  unfold Recorded at h ⊢
  unfold Uploads.credit
  split
  · rename_i hsame
    have hmore := hgrows.2 hsame
    dsimp only
    rw [List.length_append, List.length_replicate, h]
    omega
  · rw [List.length_replicate]

/-- A call that leaves the log of the device keeps the records. -/
theorem Recorded.of_log (h : Recorded u)
    (hlog : s.device.sessions = u.updater.device.sessions ∧
      s.device.written = u.updater.device.written) : Recorded { u with updater := s } := by
  unfold Recorded at h ⊢
  rw [h, hlog.2]

/-- The log of the device grows to itself. -/
theorem grows_self (s : Updater) : Grows s s := ⟨Nat.le_refl _, fun _ => Nat.le_refl _⟩

/-- Every step keeps the record of the bytes. -/
theorem recorded_step (fw : Firmware α) (u : Uploads) (taken : Step) (h : Recorded u) :
    Recorded (step fw u taken) := by
  have hsame := grows_self u.updater
  unfold step
  split
  · exact h
  · cases taken with
    | callback request p index data final =>
      have hgrows : Grows u.updater (upload fw.crypto p index data final u.updater) :=
        upload_preserves (fun _ _ ht => ht.beginPreparedInstall p)
          (fun _ ht => ht.writePreparedChunk p data) (fun _ ht => ht.finishPreparedInstall _ p)
          hsame
      exact h.credit hgrows
    | workerStarts worker inputs localBase =>
      simp only [perform]
      split
      · split <;> exact h
      · exact h
    | workerOpens worker p clock =>
      have hgrows := hsame.beginPreparedInstall p
      simp only [perform]
      split
      · split <;> rename_i heq <;> rw [heq] at hgrows <;> exact h.credit hgrows
      · exact h
    | workerPolls worker poll =>
      simp only [perform]
      split
      · rename_i expectedSize total lastProgress _
        have hdevice := turn_device expectedSize total lastProgress poll u.updater
        have hgrows : Grows u.updater (turn expectedSize total lastProgress poll u.updater).1 := by
          unfold Grows
          rw [hdevice]
          dsimp only
          split
          · refine ⟨Nat.le_refl _, fun _ => ?_⟩
            rw [List.length_append]
            omega
          · exact hsame
        exact h.credit hgrows
      · exact h
    | workerFinishes worker p =>
      have hgrows := hsame.finishPreparedInstall fw.crypto p
      simp only [perform]
      split
      · split <;> rename_i heq <;> rw [heq] at hgrows <;> exact h.credit hgrows
      · exact h
    | postPrepare p manifest signature =>
      refine h.of_log ?_
      unfold FirmwareUpdate.postPrepare
      split
      · rw [preparePackage_device]
        exact ⟨rfl, rfl⟩
      · exact ⟨rfl, rfl⟩
    | checkWorker inputs url =>
      refine h.of_log (checkWorkerBody_preserves (I := fun t =>
        t.device.sessions = u.updater.device.sessions ∧
          t.device.written = u.updater.device.written) ?_ inputs url ⟨rfl, rfl⟩)
      intro p manifest signature t ht
      rw [preparePackage_device]
      exact ht
    | tick p ready => exact h.of_log (tick_log fw.profile p ready u.updater)

/-- In every run there is one record for each byte that was written since the
latest `Update.begin`. -/
theorem recorded_run (fw : Firmware α) (p : Platform) (pending ready : Bool) (steps : List Step) :
    Recorded (run (step fw) (boot p pending ready) steps) := by
  refine run_invariant (I := Recorded) (recorded_step fw) ?_ steps
  cases pending <;> simp [Recorded, boot, FirmwareUpdate.boot, begin, clearUploadHash_eq, setState]

/-! ### The steps of a worker are its body -/

/-- The steps of a worker that nobody interrupts. -/
def workerSteps (worker : ℕ) (inputs : ApplyInputs) (localBase : String) : List Step :=
  .workerStarts worker inputs localBase ::
    .workerOpens worker inputs.opening inputs.firmware.clock ::
      (inputs.firmware.polls.map (.workerPolls worker) ++
        [.workerFinishes worker inputs.finishing])

/-- Moving a worker leaves the updater. -/
@[simp] theorem setWorker_updater (u : Uploads) (worker : ℕ) (next : WorkerPhase) :
    (u.setWorker worker next).updater = u.updater := rfl

/-- A worker is where it was moved to. -/
@[simp] theorem setWorker_workers (u : Uploads) (worker : ℕ) (next : WorkerPhase) :
    (u.setWorker worker next).workers worker = next := by simp [Uploads.setWorker]

/-- Outside of the download loop the turns of a worker are not taken. -/
theorem polls_outside (fw : Firmware α) {worker : ℕ}
    (hphase : ∀ expectedSize total lastProgress,
      u.workers worker ≠ .downloading expectedSize total lastProgress) (polls : List Poll) :
    run (step fw) u (polls.map (.workerPolls worker)) = u := by
  induction polls with
  | nil => rfl
  | cons poll polls ih =>
    have hnone : step fw u (.workerPolls worker poll) = u := by
      unfold step
      split
      · rfl
      · simp only [perform]
    rw [List.map_cons, run_cons, hnone]
    exact ih

/-- A worker whose turns have been taken: still in the loop, or behind it. -/
def Polled (u : Uploads) (worker expectedSize : ℕ) : Updater × Option (ℕ × String) → Prop
  | (s, none) => u.updater = s ∧
      ∃ total lastProgress, u.workers worker = .downloading expectedSize total lastProgress
  | (s, some (total, error)) =>
    u.updater = s ∧ u.workers worker = leaveLoop expectedSize total error

/-- Leaving the loop leads out of it. -/
theorem leaveLoop_outside (size received : ℕ) (error : String)
    (expectedSize total lastProgress : ℕ) :
    leaveLoop size received error ≠ .downloading expectedSize total lastProgress := by
  unfold leaveLoop
  split
  · simp
  · split <;> simp

/-- At the announced size the loop is left. -/
theorem loopHead_done {expectedSize total : ℕ} (hdone : expectedSize ≤ total) (clock : ℕ) :
    loopHead expectedSize total clock = leaveLoop expectedSize total "" := by
  simp [loopHead, hdone]

/-- Below the announced size the loop goes on. -/
theorem loopHead_more {expectedSize total : ℕ} (hmore : ¬expectedSize ≤ total) (clock : ℕ) :
    loopHead expectedSize total clock = .downloading expectedSize total clock := by
  simp [loopHead, hmore]

/-- A turn leaves the loop, or the loop goes on from where the turn ended. -/
theorem downloadLoop_polled {expectedSize total : ℕ} (hmore : ¬expectedSize ≤ total)
    (lastProgress : ℕ) (poll : Poll) (polls : List Poll) (s : Updater) :
    (∃ received error, (turn expectedSize total lastProgress poll s).2 =
        leaveLoop expectedSize received error ∧
      downloadLoop expectedSize (poll::polls) total lastProgress s =
        ((turn expectedSize total lastProgress poll s).1, some (received, error))) ∨
    ∃ received clock, (turn expectedSize total lastProgress poll s).2 =
        loopHead expectedSize received clock ∧
      downloadLoop expectedSize (poll::polls) total lastProgress s =
        downloadLoop expectedSize polls received clock
          (turn expectedSize total lastProgress poll s).1 := by
  rw [downloadLoop_cons hmore]
  unfold turn
  dsimp only
  split
  · split
    · exact .inl ⟨total, "", rfl, rfl⟩
    · split
      · exact .inl ⟨total, "firmware_read_timeout", rfl, rfl⟩
      · exact .inr ⟨total, lastProgress, (loopHead_more hmore lastProgress).symm, rfl⟩
  · split
    · exact .inl ⟨total, "firmware_read_failed", rfl, rfl⟩
    · cases writePreparedChunk poll.platform
        (poll.read (min DOWNLOAD_CHUNK_BYTES (expectedSize - total))) s with
      | mk t result =>
        cases result with
        | error error => exact .inl ⟨total, error, rfl, rfl⟩
        | ok _ => exact .inr ⟨_, _, rfl, rfl⟩

/-- A turn takes service and worker on. -/
theorem step_turn (hrunning : u.updater.device.restarted = false)
    {worker expectedSize total lastProgress : ℕ}
    (hphase : u.workers worker = .downloading expectedSize total lastProgress) (poll : Poll) :
    step fw u (.workerPolls worker poll) =
      (u.credit (.worker worker) (turn expectedSize total lastProgress poll u.updater).1).setWorker
        worker (turn expectedSize total lastProgress poll u.updater).2 := by
  rw [step_running fw hrunning]
  simp only [perform, hphase]

/-- The turns of a worker are the download loop. -/
theorem polls_run (fw : Firmware α) {worker expectedSize total lastProgress : ℕ} (polls : List Poll)
    (hrunning : u.updater.device.restarted = false)
    (hphase : u.workers worker = loopHead expectedSize total lastProgress) :
    (run (step fw) u (polls.map (.workerPolls worker))).updater.device.restarted = false ∧
      Polled (run (step fw) u (polls.map (.workerPolls worker))) worker expectedSize
        (downloadLoop expectedSize polls total lastProgress u.updater) := by
  induction polls generalizing u total lastProgress with
  | nil =>
    refine ⟨hrunning, ?_⟩
    by_cases hdone : expectedSize ≤ total
    · rw [loopHead_done hdone] at hphase
      rw [downloadLoop_of_le hdone]
      exact ⟨rfl, hphase⟩
    · rw [loopHead_more hdone] at hphase
      rw [downloadLoop_nil hdone]
      exact ⟨rfl, total, lastProgress, hphase⟩
  | cons poll polls ih =>
    by_cases hdone : expectedSize ≤ total
    · rw [loopHead_done hdone] at hphase
      have houtside : ∀ expectedSize total lastProgress,
          u.workers worker ≠ .downloading expectedSize total lastProgress := by
        rw [hphase]
        exact leaveLoop_outside _ _ _
      rw [polls_outside fw houtside, downloadLoop_of_le hdone]
      exact ⟨hrunning, rfl, hphase⟩
    · rw [loopHead_more hdone] at hphase
      rw [List.map_cons, run_cons, step_turn hrunning hphase poll]
      have hlog := turn_device expectedSize total lastProgress poll u.updater
      have hstill : (turn expectedSize total lastProgress poll u.updater).1.device.restarted =
          false := by
        rw [hlog]
        dsimp only
        split <;> exact hrunning
      rcases downloadLoop_polled hdone lastProgress poll polls u.updater with
        ⟨received, error, hleft, hloop⟩ | ⟨received, clock, hhead, hloop⟩
      · rw [polls_outside fw (by simp [hleft, leaveLoop_outside]), hloop]
        refine ⟨by simpa using hstill, by simp, ?_⟩
        rw [setWorker_workers, hleft]
      · rw [hloop]
        have hrest := ih (u := (u.credit (.worker worker)
          (turn expectedSize total lastProgress poll u.updater).1).setWorker worker
            (turn expectedSize total lastProgress poll u.updater).2)
          (by simpa using hstill) (by rw [setWorker_workers, hhead])
        simpa using hrest

/-- Where a body that has ended leaves its worker. -/
def Ended (u : Uploads) (worker : ℕ) : Updater × Progress Unit → Prop
  | (s, .waiting) => u.updater = s ∧
      ∃ size total lastProgress, u.workers worker = .downloading size total lastProgress
  | (s, .ended result) => u.updater = s ∧ u.workers worker = .ended result

/-- A worker that has ended takes no further step. -/
theorem ended_polls_finish (fw : Firmware α) {worker : ℕ} {result : Except String Unit}
    (hphase : u.workers worker = .ended result) (polls : List Poll) (p : Platform) :
    run (step fw) u (polls.map (.workerPolls worker) ++ [.workerFinishes worker p]) = u := by
  rw [run_append, polls_outside fw (by simp [hphase])]
  simp [step, perform, hphase]

/-- The last step of a worker whose loop has ended. -/
theorem finish_run (fw : Firmware α) {worker size received : ℕ} {error : String}
    (p : Platform) (hrunning : u.updater.device.restarted = false)
    (hphase : u.workers worker = leaveLoop size received error) :
    Ended (step fw u (.workerFinishes worker p)) worker
      (if error.length != 0 then (u.updater, .ended (.error error))
      else if received != size then (u.updater, .ended (.error "firmware_read_incomplete"))
      else
        match finishPreparedInstall fw.crypto p u.updater with
        | (s, .error error) => (s, .ended (.error ("install_finish_" ++ error)))
        | (s, .ok _) => (s, .ended (.ok ()))) := by
  rw [step_running fw hrunning]
  unfold leaveLoop at hphase
  split
  · rename_i herror
    rw [if_pos herror] at hphase
    simp [perform, hphase, Ended]
  · rename_i herror
    rw [if_neg herror] at hphase
    split
    · rename_i hshort
      rw [if_pos hshort] at hphase
      simp [perform, hphase, Ended]
    · rename_i hshort
      rw [if_neg hshort] at hphase
      simp only [perform, hphase]
      cases finishPreparedInstall fw.crypto p u.updater with
      | mk t result => cases result <;> exact ⟨by simp, by simp⟩

/-- The steps of a worker behind the opening of its session. -/
theorem opened_run (fw : Firmware α) {worker size clock : ℕ} (polls : List Poll) (p : Platform)
    (hrunning : u.updater.device.restarted = false)
    (hphase : u.workers worker = loopHead size 0 clock) :
    Ended (run (step fw) u (polls.map (.workerPolls worker) ++ [.workerFinishes worker p])) worker
      (match downloadLoop size polls 0 clock u.updater with
      | (s, none) => (s, .waiting)
      | (s, some (total, error)) =>
        if error.length != 0 then (s, .ended (.error error))
        else if total != size then (s, .ended (.error "firmware_read_incomplete"))
        else
          match finishPreparedInstall fw.crypto p s with
          | (s, .error error) => (s, .ended (.error ("install_finish_" ++ error)))
          | (s, .ok _) => (s, .ended (.ok ()))) := by
  obtain ⟨hstill, hpolled⟩ := polls_run fw polls hrunning hphase
  rw [run_append]
  generalize run (step fw) u (polls.map (.workerPolls worker)) = v at hstill hpolled ⊢
  generalize downloadLoop size polls 0 clock u.updater = loop at hpolled ⊢
  obtain ⟨s, result⟩ := loop
  cases result with
  | none =>
    obtain ⟨hupdater, received, progress, hdownloading⟩ := hpolled
    have hstay : run (step fw) v [.workerFinishes worker p] = v := by
      simp [step, perform, hdownloading]
    rw [hstay]
    exact ⟨hupdater, _, _, _, hdownloading⟩
  | some ended =>
    obtain ⟨rfl, hleft⟩ := hpolled
    exact finish_run fw p hstill hleft

/-- The steps of a worker that nobody interrupts are the body of `applyWorker`. -/
theorem workerSteps_run (fw : Firmware α) {worker : ℕ} (inputs : ApplyInputs) (localBase : String)
    (hrunning : u.updater.device.restarted = false) (hphase : u.workers worker = .outside) :
    Ended (run (step fw) u (workerSteps worker inputs localBase)) worker
      (applyWorkerBody fw inputs localBase u.updater) := by
  unfold workerSteps applyWorkerBody
  rw [run_cons, run_cons, step_running fw hrunning]
  simp only [perform, hphase]
  cases applyWorkerStarts fw.profile inputs localBase u.updater.preparedMetadata with
  | error error =>
    dsimp only
    have hended : (u.setWorker worker (.ended (.error error))).workers worker =
      .ended (.error error) := setWorker_workers _ _ _
    have hstay : step fw (u.setWorker worker (.ended (.error error)))
        (.workerOpens worker inputs.opening inputs.firmware.clock) =
          u.setWorker worker (.ended (.error error)) := by
      simp [step, perform]
    rw [hstay, ended_polls_finish fw hended]
    exact ⟨rfl, hended⟩
  | ok _ =>
    have hdevice := beginPreparedInstall_device inputs.opening u.updater
    have hopens := step_running fw
      (u := u.setWorker worker (.opening u.updater.preparedMetadata.size)) hrunning
      (.workerOpens worker inputs.opening inputs.firmware.clock)
    dsimp only
    rw [hopens]
    simp only [perform, setWorker_workers, setWorker_updater]
    cases hbegin : beginPreparedInstall inputs.opening u.updater with
    | mk t result =>
      rw [hbegin] at hdevice
      have hstill : t.device.restarted = false := by
        dsimp only at hdevice
        rw [hdevice]
        split <;> exact hrunning
      cases result with
      | error error =>
        dsimp only
        rw [ended_polls_finish fw (setWorker_workers _ _ _)]
        exact ⟨by simp, by simp⟩
      | ok _ =>
        have hrest := opened_run fw (u := ((u.setWorker worker
            (.opening u.updater.preparedMetadata.size)).credit (.worker worker) t).setWorker worker
              (loopHead u.updater.preparedMetadata.size 0 (inputs.firmware.clock % 2^32)))
          inputs.firmware.polls inputs.finishing (by simpa using hstill) (setWorker_workers _ _ _)
        rw [setWorker_updater, credit_updater] at hrest
        exact hrest

/-! ### A worker that nobody interrupts -/

/-- The step is the worker's. -/
def IsWorkers (worker : ℕ) : Step → Prop
  | .workerStarts id _ _ => id = worker
  | .workerOpens id _ _ => id = worker
  | .workerPolls id _ => id = worker
  | .workerFinishes id _ => id = worker
  | _ => False

/-- No session has been opened since, or the bytes of the session are the worker's. -/
def Own (worker sessions : ℕ) (u : Uploads) : Prop :=
  u.updater.device.sessions = sessions ∨ ∀ source ∈ u.sources, source = .worker worker

/-- Moving the worker keeps the session its own. -/
theorem Own.setWorker {worker sessions : ℕ} (h : Own worker sessions u) (next : WorkerPhase) :
    Own worker sessions (u.setWorker worker next) := h

/-- A worker's call adds its own bytes to the session, or starts one with them. -/
theorem Own.credit {worker sessions : ℕ} (h : Own worker sessions u) (s : Updater) :
    Own worker sessions (u.credit (.worker worker) s) := by
  unfold Uploads.credit
  by_cases hsame : s.device.sessions = u.updater.device.sessions
  · rw [if_pos hsame]
    rcases h with hnone | hown
    · exact .inl (hsame.trans hnone)
    · refine .inr fun source hsource => ?_
      rcases List.mem_append.mp hsource with hold | hnew
      · exact hown source hold
      · exact List.eq_of_mem_replicate hnew
  · rw [if_neg hsame]
    exact .inr fun source hsource => List.eq_of_mem_replicate hsource

/-- Every step of the worker keeps that. -/
theorem own_step {worker sessions : ℕ} (fw : Firmware α) (u : Uploads) (taken : Step)
    (h : Own worker sessions u) (hworkers : IsWorkers worker taken) :
    Own worker sessions (step fw u taken) := by
  unfold step
  split
  · exact h
  · cases taken with
    | workerStarts id inputs localBase =>
      cases hworkers
      simp only [perform]
      split
      · split <;> exact h.setWorker _
      · exact h
    | workerOpens id p clock =>
      cases hworkers
      simp only [perform]
      split
      · split <;> exact (h.credit _).setWorker _
      · exact h
    | workerPolls id poll =>
      cases hworkers
      simp only [perform]
      split
      · exact (h.credit _).setWorker _
      · exact h
    | workerFinishes id p =>
      cases hworkers
      simp only [perform]
      split
      · split <;> exact (h.credit _).setWorker _
      · exact h
    | _ => exact hworkers.elim

/-- Whatever has happened since the boot, a worker that nobody interrupts does what the body
of `applyWorker` does; and every byte that has been written to a session that it has opened
is its own. -/
theorem uninterrupted_run (fw : Firmware α) (p : Platform) (pending ready : Bool)
    (steps : List Step) {worker : ℕ} (inputs : ApplyInputs) (localBase : String)
    (hrunning : (run (step fw) (boot p pending ready) steps).updater.device.restarted = false)
    (hphase : (run (step fw) (boot p pending ready) steps).workers worker = .outside) :
    let u := run (step fw) (boot p pending ready) steps
    let v := run (step fw) u (workerSteps worker inputs localBase)
    Ended v worker (applyWorkerBody fw inputs localBase u.updater) ∧
      (v.updater.device.sessions ≠ u.updater.device.sessions →
        v.sources = List.replicate v.updater.device.written.length (.worker worker)) := by
  intro u v
  refine ⟨workerSteps_run fw inputs localBase hrunning hphase, fun hopened => ?_⟩
  have hrecorded : Recorded v := by
    have hwhole := recorded_run fw p pending ready (steps ++ workerSteps worker inputs localBase)
    rw [run_append] at hwhole
    exact hwhole
  have hown : Own worker u.updater.device.sessions v := by
    refine run_invariant_of_throughout (P := fun _ taken => IsWorkers worker taken)
      (own_step fw) (.inl rfl) (throughout_of_forall u fun taken htaken => ?_)
    simp only [workerSteps, List.mem_cons, List.mem_append, List.mem_map,
      List.not_mem_nil, or_false] at htaken
    rcases htaken with rfl | rfl | ⟨poll, -, rfl⟩ | rfl
    · exact rfl
    · exact rfl
    · exact rfl
    · exact rfl
  rw [← hrecorded]
  exact List.eq_replicate_of_mem (hown.resolve_left hopened)

end ProjEsp32.UploadRecords
