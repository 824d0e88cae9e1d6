import ProjEsp32.RemoteWorkers

/-!
# Workers whose lock times out

The locked sections of the remote update with one client, where the mutex may
not be acquired in time. A worker that misses the lock in its first or its last
section deletes itself all the same, and nothing else removes its record.
-/

namespace ProjEsp32.OrphanedWorkers

open ArduinoText FirmwareUpdate RemoteTransfer RemoteWorkers TransitionRuns

/-- A section of the single client or of a worker. -/
abbrev SoleSection := { taken : Section // ∀ client, taken.client = some client → client = 0 }

/-- One section, with whether its lock was acquired in time. -/
def takeSole (profile : BuildProfile) (s : System) (taken : Bool × SoleSection) : System :=
  takeSection profile taken.1 s taken.2

/-- Without a worker nothing is busy, and a check is admitted. -/
structure Freed (s : System) : Prop where
  /-- No worker is on record. -/
  task : s.workers = [] → s.remote.workerTask = none
  /-- The service neither checks nor downloads. -/
  state : s.workers = [] →
    s.remote.remoteState ≠ .checking ∧ s.remote.remoteState ≠ .downloading
  /-- A check is admitted, whatever its URL. -/
  admits : s.workers = [] → ∀ url, (requestCheck true url s.remote).2 = .ok ()

/-- What every section has to leave. -/
def Frees (profile : BuildProfile) (s : System) (taken : Bool × SoleSection) : Prop :=
  Freed (takeSole profile s taken)

/-- The section is one that a live worker takes from where it stands. -/
def TakenByWorker (s : System) : Section → Prop
  | .workerEntry handle =>
    ∃ worker, s.workers.find? (·.handle = handle) = some worker ∧ worker.source = none
  | .workerFailed handle _ | .workerDone handle _ =>
    ∃ worker, s.workers.find? (·.handle = handle) = some worker ∧ worker.source ≠ none
  | _ => False

/-- A worker that takes a section has acquired the lock. -/
def WorkerLocks (s : System) (taken : Bool × SoleSection) : Prop :=
  TakenByWorker s taken.2 → taken.1 = true

/-- No worker and nothing busy, or one worker that is recorded while the client
has no request under way. -/
def Owned (s : System) : Prop :=
  (s.workers = [] ∧ s.remote.workerTask = none ∧ s.remote.remoteState ≠ .checking ∧
      s.remote.remoteState ≠ .downloading) ∨
    ∃ worker, s.workers = [worker] ∧ s.remote.workerTask ≠ none ∧ s.clients 0 = .idle

/-- Where workers, task, state and client stay, the worker stays owned. -/
theorem Owned.of_eq {s t : System} (h : Owned s) (hworkers : t.workers = s.workers)
    (htask : t.remote.workerTask = s.remote.workerTask)
    (hstate : t.remote.remoteState = s.remote.remoteState) (hclient : t.clients 0 = s.clients 0) :
    Owned t := by
  unfold Owned
  rw [hworkers, htask, hstate, hclient]
  exact h

/-- A service without worker and with nothing busy is owned, whatever the client does. -/
theorem owned_of_free {t : System} (hworkers : t.workers = [])
    (htask : t.remote.workerTask = none)
    (hstate : t.remote.remoteState ≠ .checking ∧ t.remote.remoteState ≠ .downloading) : Owned t :=
  .inl ⟨hworkers, htask, hstate⟩

/-- With the worker owned, nothing is busy when there is none. -/
theorem Owned.freed {s : System} (h : Owned s) : Freed s := by
  have hfree : s.workers = [] → s.remote.workerTask = none ∧ s.remote.remoteState ≠ .checking ∧
      s.remote.remoteState ≠ .downloading := by
    intro hworkers
    rcases h with ⟨_, hfree⟩ | ⟨worker, hone, _⟩
    · exact hfree
    · rw [hworkers] at hone
      cases hone
  refine ⟨fun hworkers => (hfree hworkers).1, fun hworkers => (hfree hworkers).2, ?_⟩
  intro hworkers url
  obtain ⟨htask, hstate⟩ := hfree hworkers
  simp [requestCheck, htask, hstate]

/-- A worker that is found in an owned service is the only one. -/
theorem Owned.found {s : System} {handle : ℕ} {worker : Worker} (h : Owned s)
    (hfind : s.workers.find? (·.handle = handle) = some worker) :
    s.workers = [worker] ∧ s.remote.workerTask ≠ none ∧ s.clients 0 = .idle := by
  have hmem := List.mem_of_find?_eq_some hfind
  rcases h with ⟨hworkers, _⟩ | ⟨only, hworkers, htask, hclient⟩
  · simp [hworkers] at hmem
  · rw [hworkers, List.mem_singleton] at hmem
    rw [hmem]
    exact ⟨hworkers, htask, hclient⟩

/-- Without the lock the section of a worker is its end and nothing else. -/
theorem unlocked_section (profile : BuildProfile) {s : System} {taken : Section}
    (h : TakenByWorker s taken) : ∃ handle worker,
      s.workers.find? (·.handle = handle) = some worker ∧
      takeSection profile false s taken = s.endWorker worker := by
  cases taken with
  | workerEntry handle =>
    obtain ⟨worker, hfind, hsource⟩ := h
    refine ⟨handle, worker, hfind, ?_⟩
    simp only [takeSection, System.withWorker, hfind, hsource]
    cases worker.kind <;> rfl
  | workerFailed handle error =>
    obtain ⟨worker, hfind, hsource⟩ := h
    obtain ⟨source, hsome⟩ := Option.ne_none_iff_exists'.mp hsource
    refine ⟨handle, worker, hfind, ?_⟩
    simp only [takeSection, System.withWorker, hfind, hsome]
    rfl
  | workerDone handle localBase =>
    obtain ⟨worker, hfind, hsource⟩ := h
    obtain ⟨source, hsome⟩ := Option.ne_none_iff_exists'.mp hsource
    refine ⟨handle, worker, hfind, ?_⟩
    simp only [takeSection, System.withWorker, hfind, hsome]
    cases worker.kind <;> rfl
  | requestCheck client url => exact absurd h id
  | requestApply client => exact absurd h id
  | startWorker client created => exact absurd h id
  | setFailed client => exact absurd h id

/-- A worker that misses the lock leaves its record behind. -/
theorem not_freed_unlocked (profile : BuildProfile) {s : System} {taken : Section} (h : Owned s)
    (hworker : TakenByWorker s taken) : ¬ Freed (takeSection profile false s taken) := by
  obtain ⟨handle, worker, hfind, heq⟩ := unlocked_section profile hworker
  obtain ⟨hworkers, htask, _⟩ := h.found hfind
  intro hfreed
  rw [heq] at hfreed
  have hnone : (s.endWorker worker).workers = [] := by simp [System.endWorker, hworkers]
  exact htask (hfreed.task hnone)

/-- With no task recorded there is no worker. -/
theorem Owned.no_worker {s : System} (h : Owned s) (htask : s.remote.workerTask = none) :
    s.workers = [] := by
  rcases h with ⟨hworkers, _⟩ | ⟨worker, _, hother, _⟩
  · exact hworkers
  · exact absurd htask hother

/-- With a request of the client under way there is no worker. -/
theorem Owned.no_worker_of_client {s : System} (h : Owned s) (hclient : s.clients 0 ≠ .idle) :
    s.workers = [] ∧ s.remote.workerTask = none ∧ s.remote.remoteState ≠ .checking ∧
      s.remote.remoteState ≠ .downloading := by
  rcases h with hfree | ⟨worker, _, _, hidle⟩
  · exact hfree
  · exact absurd hidle hclient

variable {profile : BuildProfile} {s : System}

/-- The sections of the client keep the worker owned, with the lock or without. -/
theorem Owned.client (h : Owned s) (locked : Bool) {taken : Section}
    (hclient : taken.client = some 0) : Owned (takeSection profile locked s taken) := by
  cases taken with
  | requestCheck client url =>
    obtain rfl := Option.some.inj hclient
    simp only [takeSection]
    split
    · rcases requestCheck_cases locked (trim url) s.remote with ⟨error, heq⟩ | ⟨htask, heq⟩
      · rw [heq]
        exact h.of_eq rfl rfl rfl rfl
      · rw [heq]
        exact owned_of_free (h.no_worker htask) htask ⟨by simp [System.admitted, System.setClient],
          by simp [System.admitted, System.setClient]⟩
    · exact h
  | requestApply client =>
    obtain rfl := Option.some.inj hclient
    simp only [takeSection]
    split
    · rcases requestApply_cases locked s.remote with ⟨error, heq⟩ | ⟨htask, hstate, heq⟩
      · rw [heq]
        exact h.of_eq rfl rfl rfl rfl
      · rw [heq]
        exact owned_of_free (h.no_worker htask) htask
          ⟨by simp [System.admitted, System.setClient, hstate],
            by simp [System.admitted, System.setClient, hstate]⟩
    · exact h
  | startWorker client created =>
    obtain rfl := Option.some.inj hclient
    simp only [takeSection]
    split
    · rename_i kind hstarting
      obtain ⟨hworkers, hfree⟩ := h.no_worker_of_client (by simp [hstarting])
      rcases startWorker_outcome locked created s.nextTask s.remote with ⟨error, heq⟩ | heq
      · rw [heq]
        exact .inl ⟨hworkers, hfree⟩
      · rw [heq]
        exact .inr ⟨{ handle := s.nextTask, kind }, by simp [System.setClient, hworkers],
          by simp [System.setClient], by simp [System.setClient]⟩
    · exact h
  | setFailed client =>
    obtain rfl := Option.some.inj hclient
    simp only [takeSection]
    split
    · rename_i error hrefused
      obtain ⟨hworkers, hfree⟩ := h.no_worker_of_client (by simp [hrefused])
      cases locked with
      | false => exact .inl ⟨hworkers, hfree⟩
      | true => exact owned_of_free hworkers rfl ⟨by simp [System.setClient, setFailed],
          by simp [System.setClient, setFailed]⟩
    · exact h
  | workerEntry handle => cases hclient
  | workerFailed handle error => cases hclient
  | workerDone handle localBase => cases hclient

/-- A worker that is gone after it reported its end. -/
theorem owned_endWorker {worker : Worker} (hworkers : s.workers = [worker])
    (htask : s.remote.workerTask = none)
    (hstate : s.remote.remoteState ≠ .checking ∧ s.remote.remoteState ≠ .downloading) :
    Owned (s.endWorker worker) :=
  owned_of_free (by simp [System.endWorker, hworkers]) htask hstate

/-- The sections of a worker keep it owned when they have the lock. -/
theorem Owned.worker (h : Owned s) (locked : Bool) {taken : Section}
    (hclient : taken.client = none) (hlocked : TakenByWorker s taken → locked = true) :
    Owned (takeSection profile locked s taken) := by
  cases taken with
  | workerEntry handle =>
    simp only [takeSection, System.withWorker]
    split
    · rename_i worker hfind
      obtain ⟨hworkers, htask, hidle⟩ := h.found hfind
      have hentered : ∀ (remote : Remote) (source : String), remote.workerTask ≠ none →
          Owned (s.enterWorker worker (remote, some source)) := fun remote source hstill =>
        .inr ⟨{ worker with source := some source }, by simp [System.enterWorker, hworkers],
          hstill, hidle⟩
      split
      · rename_i hsource _
        rw [hlocked ⟨worker, hfind, hsource⟩]
        exact hentered _ _ htask
      · rename_i hsource _
        rw [hlocked ⟨worker, hfind, hsource⟩]
        exact hentered _ _ htask
      · exact h
    · exact h
  | workerFailed handle error =>
    simp only [takeSection, System.withWorker]
    split
    · rename_i worker hfind
      obtain ⟨hworkers, htask, hidle⟩ := h.found hfind
      split
      · rename_i source hsource
        rw [hlocked ⟨worker, hfind, by simp [hsource]⟩]
        exact owned_endWorker hworkers (by simp [setFailed]) (by simp [setFailed])
      · exact h
    · exact h
  | workerDone handle localBase =>
    simp only [takeSection, System.withWorker]
    split
    · rename_i worker hfind
      obtain ⟨hworkers, htask, hidle⟩ := h.found hfind
      split
      · rename_i hsource _
        rw [hlocked ⟨worker, hfind, by simp [hsource]⟩]
        exact owned_endWorker hworkers (by simp [checkWorkerPublish]) (by simp [checkWorkerPublish])
      · rename_i hsource _
        rw [hlocked ⟨worker, hfind, by simp [hsource]⟩]
        exact owned_endWorker hworkers (by simp [finishWorker]) (by simp [finishWorker])
      · exact h
    · exact h
  | requestCheck client url => cases hclient
  | requestApply client => cases hclient
  | startWorker client created => cases hclient
  | setFailed client => cases hclient

/-- A section in which no worker misses its lock keeps the worker owned. -/
theorem Owned.takeSole (h : Owned s) (taken : Bool × SoleSection) (hlocks : WorkerLocks s taken) :
    Owned (takeSole profile s taken) := by
  obtain ⟨locked, part, hsole⟩ := taken
  cases hparty : part.client with
  | none => exact h.worker locked hparty hlocks
  | some client =>
    rw [hsole client hparty] at hparty
    exact h.client locked hparty

/-- With the worker owned, a section frees what it has to exactly when no worker
misses its lock in it. -/
theorem frees_iff (h : Owned s) (taken : Bool × SoleSection) :
    Frees profile s taken ↔ WorkerLocks s taken := by
  constructor
  · intro hfrees hworker
    obtain ⟨locked, taken⟩ := taken
    cases locked with
    | true => rfl
    | false => exact absurd hfrees (not_freed_unlocked profile h hworker)
  · exact fun hlocks => (h.takeSole taken hlocks).freed

/-- In every run with one client the remote update is free whenever there is no
worker, exactly when no worker misses its lock. -/
theorem freed_run (profile : BuildProfile) (sections : List (Bool × SoleSection)) :
    Throughout (takeSole profile) (Frees profile) {} sections ↔
      Throughout (takeSole profile) WorkerLocks {} sections := by
  have hbegin : Owned {} := .inl ⟨rfl, rfl, by decide, by decide⟩
  refine throughout_congr (I := Owned) ?_ ?_ hbegin sections
  · exact fun s taken h hfrees => h.takeSole taken ((frees_iff h taken).mp hfrees)
  · exact fun s taken h => frees_iff h taken

/-! ### An orphaned record stays -/

/-- A record without worker, and a client that waits for nothing. -/
structure Orphaned (s : System) : Prop where
  /-- There is no worker. -/
  workers : s.workers = []
  /-- But one is on record. -/
  task : s.remote.workerTask ≠ none
  /-- The client waits for nothing. -/
  client : s.clients 0 = .idle

/-- No section of the client or of a worker removes the record. -/
theorem Orphaned.takeSole (h : Orphaned s) (taken : Bool × SoleSection) :
    Orphaned (takeSole profile s taken) := by
  obtain ⟨locked, part, hsole⟩ := taken
  have hfind : ∀ handle, s.workers.find? (·.handle = handle) = none := by simp [h.workers]
  simp only [OrphanedWorkers.takeSole]
  cases part with
  | requestCheck client url =>
    obtain rfl := hsole client rfl
    simp only [takeSection]
    split
    · rcases requestCheck_cases locked (trim url) s.remote with ⟨error, heq⟩ | ⟨htask, _⟩
      · rw [heq]
        exact ⟨h.workers, h.task, h.client⟩
      · exact absurd htask h.task
    · exact h
  | requestApply client =>
    obtain rfl := hsole client rfl
    simp only [takeSection]
    split
    · rcases requestApply_cases locked s.remote with ⟨error, heq⟩ | ⟨htask, _⟩
      · rw [heq]
        exact ⟨h.workers, h.task, h.client⟩
      · exact absurd htask h.task
    · exact h
  | startWorker client created =>
    obtain rfl := hsole client rfl
    simpa only [takeSection, h.client] using h
  | setFailed client =>
    obtain rfl := hsole client rfl
    simpa only [takeSection, h.client] using h
  | workerEntry handle => simpa only [takeSection, System.withWorker, hfind] using h
  | workerFailed handle error => simpa only [takeSection, System.withWorker, hfind] using h
  | workerDone handle localBase => simpa only [takeSection, System.withWorker, hfind] using h

/-- Once the record is orphaned every later check is refused as busy. -/
theorem orphaned_run (profile : BuildProfile) (h : Orphaned s)
    (sections : List (Bool × SoleSection)) (url : String) :
    (requestCheck true url (run (takeSole profile) s sections).remote).2 =
      .error "remote_update_busy" := by
  have hrun : Orphaned (run (takeSole profile) s sections) :=
    run_invariant (fun _ taken h => h.takeSole taken) h sections
  simp [requestCheck, hrun.task]

/-- A check is started and its worker misses the lock of its first section. -/
def missedEntry : List (Bool × SoleSection) :=
  [(true, ⟨.requestCheck 0 "https://updates.local/manifest.json", by simp [Section.client]⟩),
    (true, ⟨.startWorker 0 true, by simp [Section.client]⟩),
    (false, ⟨.workerEntry 0, by simp [Section.client]⟩)]

/-- The worker is gone, its task is recorded, and every later check is refused. -/
theorem freed_missedEntry :
    (run (takeSole {}) {} missedEntry).workers = [] ∧
      (run (takeSole {}) {} missedEntry).remote.workerTask = some 0 ∧
      (∀ sections url, (requestCheck true url
        (run (takeSole {}) {} (missedEntry ++ sections)).remote).2 =
          .error "remote_update_busy") ∧
      ¬ Throughout (takeSole {}) (Frees {}) {} missedEntry := by
  have hworkers : (run (takeSole {}) {} missedEntry).workers = [] := by decide
  have htask : (run (takeSole {}) {} missedEntry).remote.workerTask = some 0 := by decide
  have hclient : (run (takeSole {}) {} missedEntry).clients 0 = .idle := by decide
  refine ⟨hworkers, htask, fun sections url => ?_, fun hfrees => ?_⟩
  · rw [run_append]
    exact orphaned_run {} ⟨hworkers, by simp [htask], hclient⟩ sections url
  · rw [throughout_iff] at hfrees
    have hlast := (hfrees (missedEntry.take 2) _ [] rfl).task hworkers
    have hsame : (run (takeSole {}) {} missedEntry).remote.workerTask = none := hlast
    rw [htask] at hsame
    cases hsame

end ProjEsp32.OrphanedWorkers
