import Mathlib.Logic.Function.Basic
import ProjEsp32.RemoteTransfer
import ProjEsp32.TransitionRuns

/-!
# Workers and clients of the remote update

The locked sections of the remote update service, each a function of the
variables that the mutex guards, and the system of any number of clients and
workers that take them in any order. A request takes one section to be
admitted, a second one to start its worker, and a third one to report that the
start was refused. The third one writes the state of whatever worker is there.
-/

namespace ProjEsp32.RemoteWorkers

open ArduinoText FirmwareUpdate RemoteTransfer TransitionRuns

/-- The states that the remote update reports. -/
inductive RemoteState where
  | idle
  | checking
  | available
  | downloading
  | failed
  deriving DecidableEq

/-- The two worker functions. -/
inductive WorkerKind where
  | check
  | apply
  deriving DecidableEq

/-- The variables that the mutex guards; a task handle is a number. -/
structure Remote where
  /-- What the service is doing. -/
  remoteState : RemoteState := .idle
  /-- The URL of the last check. -/
  manifestUrl : String := ""
  /-- Where the available package lies. -/
  baseUrl : String := ""
  /-- Why the last worker or request failed. -/
  lastError : String := ""
  /-- The worker on record. -/
  workerTask : Option ℕ := none
  deriving DecidableEq

/-! ### The locked sections

`locked` says whether the mutex was acquired in time. -/

/-- The locked section of `setFailed`. -/
def setFailed (locked : Bool) (error : String) (r : Remote) : Remote :=
  if locked then { r with lastError := error, remoteState := .failed, workerTask := none } else r

/-- `finishWorker`. -/
def finishWorker (locked : Bool) (state : RemoteState) (r : Remote) : Remote :=
  if locked then { r with remoteState := state, workerTask := none } else r

/-- The first section of `checkWorker`: the URL it will fetch from. -/
def checkWorkerEntry (locked : Bool) (r : Remote) : Remote × Option String :=
  if locked then ({ r with remoteState := .checking }, some r.manifestUrl) else (r, none)

/-- The last section of `checkWorker`: the checked package is available. -/
def checkWorkerPublish (locked : Bool) (localBase : String) (r : Remote) : Remote :=
  if locked then
    { r with baseUrl := localBase, lastError := "", remoteState := .available, workerTask := none }
  else r

/-- The first section of `applyWorker`: the base URL it will fetch from. -/
def applyWorkerEntry (locked : Bool) (r : Remote) : Remote × Option String :=
  if locked then ({ r with remoteState := .downloading }, some r.baseUrl) else (r, none)

/-- `startWorker`; `created` is the answer of the task creation and `task` its handle. -/
def startWorker (locked created : Bool) (task : ℕ) (r : Remote) : Remote × Except String Unit :=
  if !locked then (r, .error "state_lock_timeout")
  else if r.workerTask ≠ none then (r, .error "worker_busy")
  else if !created then (r, .error "worker_create_failed")
  else ({ r with workerTask := some task }, .ok ())

/-- The first section of `requestCheck`, with a URL that was found valid. -/
def requestCheck (locked : Bool) (url : String) (r : Remote) : Remote × Except String Unit :=
  if !locked then (r, .error "state_lock_timeout")
  else if r.workerTask ≠ none ∨ r.remoteState = .checking ∨ r.remoteState = .downloading then
    (r, .error "remote_update_busy")
  else
    ({ r with manifestUrl := url, baseUrl := "", lastError := "", remoteState := .idle }, .ok ())

/-- The first section of `requestApply`. -/
def requestApply (locked : Bool) (r : Remote) : Remote × Except String Unit :=
  if !locked then (r, .error "state_lock_timeout")
  else if r.remoteState ≠ .available ∨ r.workerTask ≠ none then
    (r, .error "remote_update_not_available")
  else (r, .ok ())

/-! ### Clients and workers -/

/-- Where a client of the service stands: the HTTP task, the MQTT callback,
the automatic scheduler. -/
inductive Client where
  /-- No request under way. -/
  | idle
  /-- Admitted, about to start its worker. -/
  | starting (kind : WorkerKind)
  /-- The start was refused, about to report it. -/
  | refused (error : String)
  deriving DecidableEq

/-- A live worker, from its creation to its last section. -/
structure Worker where
  /-- The handle of its task. -/
  handle : ℕ
  /-- Whether it checks or applies. -/
  kind : WorkerKind
  /-- The URL it read in its first section; none before. -/
  source : Option String := none
  deriving DecidableEq

/-- The service, its clients and its live workers. -/
structure System where
  /-- The service. -/
  remote : Remote := {}
  /-- Where each client stands. -/
  clients : ℕ → Client := fun _ => .idle
  /-- The live workers. -/
  workers : List Worker := []
  /-- The handle of the next task. -/
  nextTask : ℕ := 0

/-- One section, taken by a client or by a worker. What a worker does between
its two sections is up to the network and the package: it fails or is done. -/
inductive Section where
  | requestCheck (client : ℕ) (requestedUrl : String)
  | requestApply (client : ℕ)
  | startWorker (client : ℕ) (created : Bool)
  | setFailed (client : ℕ)
  | workerEntry (handle : ℕ)
  | workerFailed (handle : ℕ) (error : String)
  | workerDone (handle : ℕ) (localBase : String)
  deriving DecidableEq

/-- The client that takes the section. -/
def Section.client : Section → Option ℕ
  | .requestCheck client _ => some client
  | .requestApply client => some client
  | .startWorker client _ => some client
  | .setFailed client => some client
  | _ => none

/-- A client moves on. -/
def System.setClient (s : System) (client : ℕ) (next : Client) : System :=
  { s with clients := Function.update s.clients client next }

/-- A worker deletes itself. -/
def System.endWorker (s : System) (worker : Worker) : System :=
  { s with workers := s.workers.erase worker }

/-- A client has been through its first section. -/
def System.admitted (s : System) (client : ℕ) (kind : WorkerKind) :
    Remote × Except String Unit → System
  | (remote, .ok _) => { s with remote }.setClient client (.starting kind)
  | (remote, .error _) => { s with remote }

/-- The section of a worker that has the handle. -/
def System.withWorker (s : System) (handle : ℕ) (act : Worker → System) : System :=
  match s.workers.find? (·.handle = handle) with
  | some worker => act worker
  | none => s

/-- The first section of a worker; without the lock it deletes itself. -/
def System.enterWorker (s : System) (worker : Worker) : Remote × Option String → System
  | (remote, some source) =>
    let entered : Worker := { worker with source := some source }
    { s with remote, workers := s.workers.replace worker entered }
  | (remote, none) => { s with remote }.endWorker worker

/-- One section of the service. A section that its party cannot take, from
where the party stands, is not taken. -/
def takeSection (profile : BuildProfile) (locked : Bool) (s : System) : Section → System
  | .requestCheck client requestedUrl =>
    if s.clients client = .idle ∧ validManifestUrl profile (trim requestedUrl) = true then
      s.admitted client .check (requestCheck locked (trim requestedUrl) s.remote)
    else s
  | .requestApply client =>
    if s.clients client = .idle then s.admitted client .apply (requestApply locked s.remote) else s
  | .startWorker client created =>
    match s.clients client with
    | .starting kind =>
      match startWorker locked created s.nextTask s.remote with
      | (remote, .ok _) =>
        let worker : Worker := { handle := s.nextTask, kind }
        { s with remote, workers := s.workers ++ [worker]
                 nextTask := s.nextTask + 1 }.setClient client .idle
      | (remote, .error error) => { s with remote }.setClient client (.refused error)
    | _ => s
  | .setFailed client =>
    match s.clients client with
    | .refused error => { s with remote := setFailed locked error s.remote }.setClient client .idle
    | _ => s
  | .workerEntry handle =>
    s.withWorker handle fun worker =>
      match worker.source, worker.kind with
      | none, .check => s.enterWorker worker (checkWorkerEntry locked s.remote)
      | none, .apply => s.enterWorker worker (applyWorkerEntry locked s.remote)
      | some _, _ => s
  | .workerFailed handle error =>
    s.withWorker handle fun worker =>
      match worker.source with
      | some _ => { s with remote := setFailed locked error s.remote }.endWorker worker
      | none => s
  | .workerDone handle localBase =>
    s.withWorker handle fun worker =>
      match worker.source, worker.kind with
      | some _, .check =>
        { s with remote := checkWorkerPublish locked localBase s.remote }.endWorker worker
      | some _, .apply => { s with remote := finishWorker locked .idle s.remote }.endWorker worker
      | none, _ => s

/-! ### At most one worker -/

/-- At most one worker is live, and its task is recorded. -/
structure OneWorker (s : System) : Prop where
  /-- There is one worker at most. -/
  single : s.workers.length ≤ 1
  /-- And it is on record. -/
  recorded : s.workers ≠ [] → s.remote.workerTask ≠ none

/-- A client that was refused as `worker_busy` leaves state and task alone. -/
def StaysOut (s t : System) (taken : Section) : Prop :=
  ∀ client, taken.client = some client →
    s.clients client = .refused "worker_busy" ∨ t.clients client = .refused "worker_busy" →
    t.remote.remoteState = s.remote.remoteState ∧ t.remote.workerTask = s.remote.workerTask

/-- What one section has to keep: one worker, and refused clients staying out. -/
def Disciplined (profile : BuildProfile) (s : System) (taken : Section) : Prop :=
  OneWorker (takeSection profile true s taken) ∧
    StaysOut s (takeSection profile true s taken) taken

/-- The report of a refused start finds no worker, and after `worker_busy` also
a remote update that has already failed. -/
def ReportsLate (s : System) (taken : Section) : Prop :=
  ∀ client error, taken = .setFailed client → s.clients client = .refused error →
    s.remote.workerTask = none ∧ (error = "worker_busy" → s.remote.remoteState = .failed)

/-- There is no worker and no task recorded, or one worker and a task recorded. -/
def Settled (s : System) : Prop :=
  (s.workers = [] ∧ s.remote.workerTask = none) ∨
    ∃ worker, s.workers = [worker] ∧ s.remote.workerTask ≠ none

/-- A settled system has one worker at most. -/
theorem Settled.oneWorker {s : System} (h : Settled s) : OneWorker s := by
  rcases h with ⟨hworkers, _⟩ | ⟨worker, hworkers, htask⟩
  · exact ⟨by simp [hworkers], by simp [hworkers]⟩
  · exact ⟨by simp [hworkers], fun _ => htask⟩

/-- Where workers and task stay, the service stays settled. -/
theorem Settled.of_eq {s t : System} (h : Settled s) (hworkers : t.workers = s.workers)
    (htask : t.remote.workerTask = s.remote.workerTask) : Settled t := by
  unfold Settled
  rw [hworkers, htask]
  exact h

/-- A worker that is found in a settled service is the only one. -/
theorem Settled.withWorker {s : System} {handle : ℕ} {act : Worker → System} (h : Settled s)
    (hact : ∀ worker, s.workers = [worker] → s.remote.workerTask ≠ none → Settled (act worker)) :
    Settled (s.withWorker handle act) := by
  unfold System.withWorker
  split
  · rename_i found hfind
    have hmem := List.mem_of_find?_eq_some hfind
    rcases h with ⟨hworkers, _⟩ | ⟨worker, hworkers, htask⟩
    · simp [hworkers] at hmem
    · rw [hworkers, List.mem_singleton] at hmem
      rw [hmem]
      exact hact worker hworkers htask
  · exact h

/-- The only worker leaves a settled service when it deletes its record. -/
theorem settled_endWorker {s : System} {worker : Worker} (hworkers : s.workers = [worker])
    (htask : s.remote.workerTask = none) : Settled (s.endWorker worker) := by
  left
  simp [System.endWorker, hworkers, htask]

/-- The only worker goes on in a settled service as long as its task is recorded. -/
theorem settled_enterWorker {s : System} {worker : Worker} {remote : Remote} {source : String}
    (hworkers : s.workers = [worker]) (htask : remote.workerTask ≠ none) :
    Settled (s.enterWorker worker (remote, some source)) := by
  right
  exact ⟨{ worker with source := some source }, by simp [System.enterWorker, hworkers], htask⟩

/-- What can be admitted changes neither workers nor task. -/
theorem admitted_eq (s : System) (client : ℕ) (kind : WorkerKind)
    {out : Remote × Except String Unit} (htask : out.1.workerTask = s.remote.workerTask) :
    (s.admitted client kind out).workers = s.workers ∧
      (s.admitted client kind out).remote.workerTask = s.remote.workerTask := by
  obtain ⟨remote, result⟩ := out
  cases result <;> exact ⟨rfl, htask⟩

/-- The admission of a check leaves the task alone. -/
theorem requestCheck_workerTask (locked : Bool) (url : String) (r : Remote) :
    (requestCheck locked url r).1.workerTask = r.workerTask := by
  unfold requestCheck
  split
  · rfl
  · split <;> rfl

/-- The admission of an apply changes nothing. -/
theorem requestApply_eq (locked : Bool) (r : Remote) : (requestApply locked r).1 = r := by
  unfold requestApply
  split
  · rfl
  · split <;> rfl

/-- A start that is refused changes nothing, and one that is not found no task. -/
theorem startWorker_cases (created : Bool) (task : ℕ) (r : Remote) :
    (∃ error, startWorker true created task r = (r, .error error)) ∨
      (r.workerTask = none ∧
        startWorker true created task r = ({ r with workerTask := some task }, .ok ())) := by
  unfold startWorker
  by_cases htask : r.workerTask = none
  · cases created with
    | false => exact .inl ⟨"worker_create_failed", by simp [htask]⟩
    | true => exact .inr ⟨htask, by simp [htask]⟩
  · exact .inl ⟨"worker_busy", by simp [htask]⟩

/-- A check is refused without a change, or admitted when nothing is busy. -/
theorem requestCheck_cases (locked : Bool) (url : String) (r : Remote) :
    (∃ error, requestCheck locked url r = (r, .error error)) ∨
      r.workerTask = none ∧ requestCheck locked url r =
        ({ r with manifestUrl := url, baseUrl := "", lastError := "", remoteState := .idle },
          .ok ()) := by
  unfold requestCheck
  cases locked with
  | false => exact .inl ⟨"state_lock_timeout", rfl⟩
  | true =>
    by_cases hbusy : r.workerTask ≠ none ∨ r.remoteState = .checking ∨ r.remoteState = .downloading
    · exact .inl ⟨"remote_update_busy", by simp [hbusy]⟩
    · refine .inr ⟨?_, by simp [hbusy]⟩
      by_contra htask
      exact hbusy (.inl htask)

/-- An apply is refused, or admitted when a package is available and no task is
recorded; the variables stay. -/
theorem requestApply_cases (locked : Bool) (r : Remote) :
    (∃ error, requestApply locked r = (r, .error error)) ∨
      r.workerTask = none ∧ r.remoteState = .available ∧ requestApply locked r = (r, .ok ()) := by
  unfold requestApply
  cases locked with
  | false => exact .inl ⟨"state_lock_timeout", rfl⟩
  | true =>
    by_cases hrefused : r.remoteState ≠ .available ∨ r.workerTask ≠ none
    · exact .inl ⟨"remote_update_not_available", by simp [hrefused]⟩
    · have hfree := not_or.mp hrefused
      exact .inr ⟨not_not.mp hfree.2, not_not.mp hfree.1, by simp [hrefused]⟩

/-- A start without lock, with a task recorded or without memory is refused. -/
theorem startWorker_outcome (locked created : Bool) (task : ℕ) (r : Remote) :
    (∃ error, startWorker locked created task r = (r, .error error)) ∨
      startWorker locked created task r = ({ r with workerTask := some task }, .ok ()) := by
  cases locked with
  | false => exact .inl ⟨"state_lock_timeout", rfl⟩
  | true => exact (startWorker_cases created task r).imp_right fun h => h.2

/-- Every section keeps the service settled, a report of a refused start when it
is late. -/
theorem Settled.takeSection {profile : BuildProfile} {s : System} {taken : Section}
    (h : Settled s) (hlate : ReportsLate s taken) : Settled (takeSection profile true s taken) := by
  cases taken with
  | requestCheck client requestedUrl =>
    simp only [RemoteWorkers.takeSection]
    split
    · obtain ⟨hworkers, htask⟩ := admitted_eq s client .check
        (requestCheck_workerTask true (trim requestedUrl) s.remote)
      exact h.of_eq hworkers htask
    · exact h
  | requestApply client =>
    simp only [RemoteWorkers.takeSection]
    split
    · obtain ⟨hworkers, htask⟩ := admitted_eq s client .apply
        (congrArg Remote.workerTask (requestApply_eq true s.remote))
      exact h.of_eq hworkers htask
    · exact h
  | startWorker client created =>
    simp only [RemoteWorkers.takeSection]
    split
    · rename_i kind _
      rcases startWorker_cases created s.nextTask s.remote with ⟨error, heq⟩ | ⟨htask, heq⟩
      · rw [heq]
        exact h.of_eq rfl rfl
      · rw [heq]
        rcases h with ⟨hworkers, _⟩ | ⟨worker, _, hother⟩
        · exact .inr ⟨{ handle := s.nextTask, kind }, by simp [System.setClient, hworkers],
            by simp [System.setClient]⟩
        · exact absurd htask hother
    · exact h
  | setFailed client =>
    simp only [RemoteWorkers.takeSection]
    split
    · rename_i error hclient
      obtain ⟨htask, _⟩ := hlate client error rfl hclient
      exact h.of_eq rfl (by simp [setFailed, System.setClient, htask])
    · exact h
  | workerEntry handle =>
    refine h.withWorker fun worker hworkers htask => ?_
    split
    · exact settled_enterWorker hworkers htask
    · exact settled_enterWorker hworkers htask
    · exact h
  | workerFailed handle error =>
    refine h.withWorker fun worker hworkers htask => ?_
    split
    · exact settled_endWorker hworkers (by simp [setFailed])
    · exact h
  | workerDone handle localBase =>
    refine h.withWorker fun worker hworkers htask => ?_
    split
    · exact settled_endWorker hworkers (by simp [checkWorkerPublish])
    · exact settled_endWorker hworkers (by simp [finishWorker])
    · exact h

/-- Refused clients stay out when their reports are late. -/
theorem ReportsLate.staysOut {profile : BuildProfile} {s : System} {taken : Section}
    (hlate : ReportsLate s taken) : StaysOut s (takeSection profile true s taken) taken := by
  intro client hclient hbusy
  cases taken with
  | requestCheck _ requestedUrl =>
    obtain rfl := Option.some.inj hclient
    simp only [takeSection] at hbusy ⊢
    split
    · rename_i hidle
      rw [if_pos hidle, hidle.1] at hbusy
      unfold System.admitted at hbusy
      split at hbusy <;> simp [System.setClient, hidle.1] at hbusy
    · exact ⟨rfl, rfl⟩
  | requestApply _ =>
    obtain rfl := Option.some.inj hclient
    simp only [takeSection] at hbusy ⊢
    split
    · rename_i hidle
      rw [if_pos hidle, hidle] at hbusy
      unfold System.admitted at hbusy
      split at hbusy <;> simp [System.setClient, hidle] at hbusy
    · exact ⟨rfl, rfl⟩
  | startWorker _ created =>
    obtain rfl := Option.some.inj hclient
    simp only [takeSection] at hbusy ⊢
    split
    · rename_i kind hstarting
      rcases startWorker_cases created s.nextTask s.remote with ⟨error, heq⟩ | ⟨_, heq⟩
      · rw [heq]
        exact ⟨rfl, rfl⟩
      · rw [hstarting] at hbusy
        simp [heq, System.setClient] at hbusy
    · exact ⟨rfl, rfl⟩
  | setFailed _ =>
    obtain rfl := Option.some.inj hclient
    simp only [takeSection] at hbusy ⊢
    split
    · rename_i error hrefused
      obtain ⟨htask, hfailed⟩ := hlate _ error rfl hrefused
      rw [hrefused] at hbusy
      have herror : error = "worker_busy" := by simpa [System.setClient] using hbusy
      simp [System.setClient, setFailed, htask, hfailed herror]
    · exact ⟨rfl, rfl⟩
  | workerEntry _ => cases hclient
  | workerFailed _ _ => cases hclient
  | workerDone _ _ => cases hclient

/-- In a settled service a section is disciplined exactly when it is not an
early report of a refused start: such a report removes the record of the
worker that is there, or overwrites the state that it left. -/
theorem disciplined_iff {profile : BuildProfile} {s : System} (taken : Section) (h : Settled s) :
    Disciplined profile s taken ↔ ReportsLate s taken := by
  constructor
  · rintro ⟨hone, hout⟩ client error rfl hrefused
    have hnext : takeSection profile true s (.setFailed client) =
        { s with remote := setFailed true error s.remote }.setClient client .idle := by
      simp [takeSection, hrefused]
    rw [hnext] at hone hout
    constructor
    · rcases h with ⟨_, htask⟩ | ⟨worker, hworkers, _⟩
      · exact htask
      · have hrecorded := hone.recorded (by simp [System.setClient, hworkers])
        simp [System.setClient, setFailed] at hrecorded
    · intro herror
      rw [herror] at hrefused
      exact (hout client rfl (.inl hrefused)).1.symm
  · exact fun hlate => ⟨(h.takeSection hlate).oneWorker, hlate.staysOut⟩

/-- In every interleaving of the locked sections there is at most one worker,
with its task recorded, and refused clients stay out, exactly when every report
of a refused start is late. -/
theorem oneWorker_run (profile : BuildProfile) (sections : List Section) :
    Throughout (takeSection profile true) (Disciplined profile) {} sections ↔
      Throughout (takeSection profile true) ReportsLate {} sections := by
  have hbegin : Settled {} := .inl ⟨rfl, rfl⟩
  refine throughout_congr (I := Settled) ?_ ?_ hbegin sections
  · exact fun s taken h hdisciplined => h.takeSection ((disciplined_iff taken h).mp hdisciplined)
  · exact fun s taken h => disciplined_iff taken h

/-- Two checks are admitted before either starts its worker. The second one is
refused as busy and removes the record of the first one's worker, so that a
third check gets a worker of its own. -/
def racingChecks : List Section :=
  [.requestCheck 0 "https://updates.local/manifest.json",
    .requestCheck 1 "https://updates.local/manifest.json",
    .startWorker 0 true, .startWorker 1 true, .setFailed 1,
    .requestCheck 2 "https://updates.local/manifest.json", .startWorker 2 true]

/-- Three checks can have two live workers. -/
theorem oneWorker_race : (run (takeSection {} true) {} racingChecks).workers.length = 2 ∧
    ¬ Throughout (takeSection {} true) (Disciplined {}) {} racingChecks := by
  constructor
  · decide
  · intro h
    rw [throughout_iff] at h
    have hlast := (h (racingChecks.take 6) (.startWorker 2 true) [] rfl).1.single
    exact absurd hlast (by decide)

end ProjEsp32.RemoteWorkers
