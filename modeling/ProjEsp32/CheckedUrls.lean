import Mathlib.Data.List.Nodup
import ProjEsp32.FirmwareUpdateRuns
import ProjEsp32.RemoteWorkers

/-!
# Which URL a check fetches

The locked sections of the remote update with a record of the URL that each
check was accepted for. The URL goes through a variable that the request
writes in one section and its worker reads in another one. A check worker ends
with the section that its body came to.
-/

namespace ProjEsp32.CheckedUrls

open ArduinoText CheckedResult FirmwareUpdate RemoteTransfer RemoteWorkers TransitionRuns
open FirmwarePackageVerifier (sampleManifest)
open FirmwareUpdateRuns (sampleDevice)

variable {α : Type}

/-- The service with a record of the URLs, which no section reads. -/
structure Tracked where
  /-- The clients, the workers and the service. -/
  system : System := {}
  /-- The URL of the check that a client has been admitted for. -/
  requested : ℕ → Option String := fun _ => none
  /-- The URL that the check of a worker was accepted for. -/
  accepted : ℕ → Option String := fun _ => none

/-- One section of a client or a worker. What a check worker meets between its
first and its last section is the `CheckInputs` and the update service. -/
inductive Turn where
  | requestCheck (client : ℕ) (requestedUrl : String)
  | requestApply (client : ℕ)
  | startWorker (client : ℕ) (created : Bool)
  | setFailed (client : ℕ)
  | workerEntry (handle : ℕ)
  | checkEnds (handle : ℕ) (inputs : CheckInputs) (updater : Updater)
  | applyEnds (handle : ℕ) (result : Except String Unit)

/-- The last section of a check worker, as its body decides it. -/
def lastSection (handle : ℕ) : Progress String → Option Section
  | .waiting => none
  | .ended (.error error) => some (.workerFailed handle error)
  | .ended (.ok localBase) => some (.workerDone handle localBase)

/-- The section that a turn is; none when the worker is not that far. -/
def Turn.taken (fw : Firmware α) (s : System) : Turn → Option Section
  | .requestCheck client requestedUrl => some (.requestCheck client requestedUrl)
  | .requestApply client => some (.requestApply client)
  | .startWorker client created => some (.startWorker client created)
  | .setFailed client => some (.setFailed client)
  | .workerEntry handle => some (.workerEntry handle)
  | .checkEnds handle inputs updater =>
    match s.workers.find? (·.handle = handle) with
    | some ⟨_, .check, some source⟩ =>
      lastSection handle (checkWorkerBody fw inputs source updater).2
    | _ => none
  | .applyEnds handle result =>
    match s.workers.find? (·.handle = handle), result with
    | some ⟨_, .apply, some _⟩, .error error => some (.workerFailed handle error)
    | some ⟨_, .apply, some _⟩, .ok _ => some (.workerDone handle "")
    | _, _ => none

/-- The record after a section: an admitted check is remembered with its client,
and handed to the worker that is started for it. -/
def Tracked.record (t : Tracked) (next : System) : Section → Tracked
  | .requestCheck client requestedUrl =>
    if t.system.clients client = .idle ∧ next.clients client = .starting .check then
      { t with system := next
               requested := Function.update t.requested client (some (trim requestedUrl)) }
    else { t with system := next }
  | .startWorker client _ =>
    if t.system.clients client = .starting .check ∧ next.clients client = .idle then
      { t with system := next
               accepted := Function.update t.accepted t.system.nextTask (t.requested client) }
    else { t with system := next }
  | _ => { t with system := next }

/-- One turn, with every lock acquired. -/
def follow (fw : Firmware α) (t : Tracked) (turn : Turn) : Tracked :=
  match turn.taken fw t.system with
  | some taken => t.record (takeSection fw.profile true t.system taken) taken
  | none => t

/-- Every check worker that has read its URL has read the accepted one. -/
def ReadsAccepted (t : Tracked) : Prop :=
  ∀ worker ∈ t.system.workers, worker.kind = .check →
    ∀ source, worker.source = some source → t.accepted worker.handle = some source

/-- What a turn has to keep: check workers read the accepted URL, and the base
that one of them publishes is derived from it. -/
structure Fetches (fw : Firmware α) (t : Tracked) (turn : Turn) : Prop where
  /-- Every check worker reads the URL that was let in. -/
  reads : ReadsAccepted (follow fw t turn)
  /-- The base that a check publishes is that of its own URL. -/
  publishes : ∀ handle inputs updater localBase, turn = .checkEnds handle inputs updater →
    turn.taken fw t.system = some (.workerDone handle localBase) →
    ∃ url, t.accepted handle = some url ∧
      (follow fw t turn).system.remote.baseUrl = deriveBaseUrl url ∧
      (follow fw t turn).system.remote.remoteState = .available

/-- A check that has been admitted with this URL and whose worker has not taken
its first section yet waits for nothing else. -/
def AwaitsOnly (t : Tracked) (url : String) : Prop :=
  (∀ client, t.system.clients client = .starting .check → t.requested client = some url) ∧
    ∀ worker ∈ t.system.workers, worker.kind = .check → worker.source = none →
      t.accepted worker.handle = some url

/-- The turn admits no check with another URL than that of a check on its way. -/
def KeepsUrl (profile : BuildProfile) (t : Tracked) : Turn → Prop
  | .requestCheck client requestedUrl =>
    t.system.clients client = .idle → validManifestUrl profile (trim requestedUrl) = true →
      (requestCheck true (trim requestedUrl) t.system.remote).2 = .ok () →
      AwaitsOnly t (trim requestedUrl)
  | _ => True

/-- The base that a check worker publishes is the one of the URL it has read. -/
theorem checkWorkerBody_base {fw : Firmware α} {inputs : CheckInputs} {url localBase : String}
    {s : Updater} (h : (checkWorkerBody fw inputs url s).2 = .ended (.ok localBase)) :
    localBase = deriveBaseUrl url :=
  (checkWorkerBody_ok (Prod.ext rfl h)).1

/-! ### Handles -/

/-- A replaced list has old elements and the new one. -/
theorem mem_replace {β : Type} [DecidableEq β] {l : List β} {a b c : β}
    (h : c ∈ l.replace a b) : c ∈ l ∨ c = b := by
  induction l with
  | nil => cases h
  | cons head tail ih =>
    rw [List.replace_cons] at h
    split at h
    · rcases List.mem_cons.mp h with hnew | htail
      · exact .inr hnew
      · exact .inl (List.mem_cons_of_mem _ htail)
    · rcases List.mem_cons.mp h with hhead | htail
      · exact .inl (hhead ▸ List.mem_cons_self)
      · exact (ih htail).imp_left (List.mem_cons_of_mem _)

/-- The new element is there when the old one was. -/
theorem mem_replace_self {β : Type} [DecidableEq β] {l : List β} {a b : β} (h : a ∈ l) :
    b ∈ l.replace a b := by
  induction l with
  | nil => cases h
  | cons head tail ih =>
    rw [List.replace_cons]
    split
    · exact List.mem_cons_self
    · rename_i hne
      have htail : a ∈ tail := by
        rcases List.mem_cons.mp h with hhead | htail
        · exact absurd (beq_iff_eq.mpr hhead) (by simpa using hne)
        · exact htail
      exact List.mem_cons_of_mem _ (ih htail)

/-- Replacing an element by one with the same image leaves the images. -/
theorem map_replace {β γ : Type} [DecidableEq β] {f : β → γ} {a b : β} (l : List β)
    (h : f b = f a) : (l.replace a b).map f = l.map f := by
  induction l with
  | nil => rfl
  | cons head tail ih =>
    rw [List.replace_cons]
    split
    · rename_i heq
      rw [List.map_cons, List.map_cons, h, eq_of_beq heq]
    · rw [List.map_cons, List.map_cons, ih]

/-- With distinct handles a worker is found by its own. -/
theorem find_handle {workers : List Worker} (hnodup : (workers.map Worker.handle).Nodup)
    {worker : Worker} (hmem : worker ∈ workers) :
    workers.find? (·.handle = worker.handle) = some worker := by
  induction workers with
  | nil => cases hmem
  | cons head tail ih =>
    rw [List.map_cons, List.nodup_cons] at hnodup
    rcases List.mem_cons.mp hmem with hhead | htail
    · subst hhead
      simp
    · have hne : head.handle ≠ worker.handle := by
        intro heq
        exact hnodup.1 (heq ▸ List.mem_map_of_mem htail)
      rw [List.find?_cons_of_neg (by simpa using hne)]
      exact ih hnodup.2 htail

/-! ### The invariant -/

/-- Checks on their way wait for the URL that is set, check workers have read
theirs, and no two workers share a handle. -/
structure OnCourse (t : Tracked) : Prop where
  /-- Whoever waits for a check waits for that of the stored URL. -/
  awaits : AwaitsOnly t t.system.remote.manifestUrl
  /-- The check workers read what was let in. -/
  reads : ReadsAccepted t
  /-- The handles in use have been given out. -/
  below : ∀ worker ∈ t.system.workers, worker.handle < t.system.nextTask
  /-- No handle is in use twice. -/
  distinct : (t.system.workers.map Worker.handle).Nodup

variable {t : Tracked} {next : System}

/-- A section that admits no check, starts no worker and reads no URL stays on
course. -/
theorem OnCourse.of_sublist (h : OnCourse t)
    (hurl : next.remote.manifestUrl = t.system.remote.manifestUrl)
    (hclients : ∀ client, next.clients client = .starting .check →
      t.system.clients client = .starting .check)
    (hworkers : next.workers.Sublist t.system.workers)
    (htask : next.nextTask = t.system.nextTask) : OnCourse { t with system := next } where
  awaits := by
    refine ⟨fun client hclient => ?_, fun worker hmem hkind hsource => ?_⟩
    · rw [hurl]
      exact h.awaits.1 client (hclients client hclient)
    · rw [hurl]
      exact h.awaits.2 worker (hworkers.mem hmem) hkind hsource
  reads := fun worker hmem => h.reads worker (hworkers.mem hmem)
  below := by
    intro worker hmem
    rw [htask]
    exact h.below worker (hworkers.mem hmem)
  distinct := h.distinct.sublist (hworkers.map _)

/-- A client that moves on to anything but the start of a check. -/
theorem setClient_starting {s : System} {client : ℕ} {state : Client}
    (hstate : state ≠ .starting .check) (other : ℕ)
    (hother : (s.setClient client state).clients other = .starting .check) :
    s.clients other = .starting .check := by
  simp only [System.setClient] at hother
  by_cases hsame : other = client
  · subst hsame
    rw [Function.update_self] at hother
    exact absurd hother hstate
  · rw [Function.update_of_ne hsame] at hother
    exact hother

/-- A request for a check is refused without a change, or admitted. -/
theorem takeSection_requestCheck (profile : BuildProfile) (s : System) (client : ℕ)
    (requestedUrl : String) :
    (takeSection profile true s (.requestCheck client requestedUrl) = s ∧
        ¬ (s.clients client = .idle ∧ validManifestUrl profile (trim requestedUrl) = true ∧
          (requestCheck true (trim requestedUrl) s.remote).2 = .ok ())) ∨
      s.clients client = .idle ∧ validManifestUrl profile (trim requestedUrl) = true ∧
        (requestCheck true (trim requestedUrl) s.remote).2 = .ok () ∧
        s.remote.workerTask = none ∧
        takeSection profile true s (.requestCheck client requestedUrl) =
          { s with
            remote := { s.remote with
              manifestUrl := trim requestedUrl, baseUrl := "", lastError := ""
              remoteState := .idle } }.setClient client (.starting .check) := by
  simp only [takeSection]
  split
  · rename_i hidle
    rcases requestCheck_cases true (trim requestedUrl) s.remote with ⟨error, heq⟩ | ⟨htask, heq⟩
    · rw [heq]
      exact .inl ⟨rfl, by simp⟩
    · rw [heq]
      exact .inr ⟨hidle.1, hidle.2, rfl, htask, rfl⟩
  · rename_i hrefused
    exact .inl ⟨rfl, fun h => hrefused ⟨h.1, h.2.1⟩⟩

/-- Nobody is idle and starting. -/
theorem not_starting_of_idle {s : System} {client : ℕ} {kind : WorkerKind} :
    ¬ (s.clients client = .idle ∧ s.clients client = .starting kind) := by
  rintro ⟨hidle, hstarting⟩
  rw [hidle] at hstarting
  cases hstarting

/-- A check that is admitted stays on course when it keeps the URL. -/
theorem OnCourse.requestCheck (h : OnCourse t) (profile : BuildProfile) (client : ℕ) (url : String)
    (hkeeps : KeepsUrl profile t (.requestCheck client url)) :
    OnCourse (t.record (takeSection profile true t.system (.requestCheck client url))
      (.requestCheck client url)) := by
  simp only [Tracked.record]
  rcases takeSection_requestCheck profile t.system client url with
    ⟨heq, _⟩ | ⟨hidle, hvalid, hadmitted, _, heq⟩
  · rw [heq, if_neg not_starting_of_idle]
    exact h
  · have hnow : (takeSection profile true t.system (.requestCheck client url)).clients client =
        .starting .check := by simp [heq, System.setClient]
    rw [if_pos ⟨hidle, hnow⟩, heq]
    obtain ⟨hclients, hworkers⟩ := hkeeps hidle hvalid hadmitted
    refine ⟨⟨fun other hother => ?_, hworkers⟩, h.reads, h.below, h.distinct⟩
    by_cases hsame : other = client
    · subst hsame
      exact Function.update_self ..
    · simp only [System.setClient] at hother ⊢
      rw [Function.update_of_ne hsame] at hother ⊢
      exact hclients other hother

/-- The service when the client has started its worker. -/
def started (s : System) (client : ℕ) (kind : WorkerKind) : System :=
  let worker : Worker := { handle := s.nextTask, kind }
  { s with remote := { s.remote with workerTask := some s.nextTask }
           workers := s.workers ++ [worker]
           nextTask := s.nextTask + 1 }.setClient client .idle

/-- The start of a worker is refused, or succeeds; others do not start one. -/
theorem takeSection_startWorker (profile : BuildProfile) (s : System) (client : ℕ)
    (created : Bool) :
    (takeSection profile true s (.startWorker client created) = s ∧
        ∀ kind, s.clients client ≠ .starting kind) ∨
      ∃ kind, s.clients client = .starting kind ∧
        ((∃ error, takeSection profile true s (.startWorker client created) =
            s.setClient client (.refused error)) ∨
          takeSection profile true s (.startWorker client created) = started s client kind) := by
  simp only [takeSection]
  split
  · rename_i kind hstarting
    refine .inr ⟨kind, hstarting, ?_⟩
    rcases startWorker_outcome true created s.nextTask s.remote with ⟨error, heq⟩ | heq
    · rw [heq]
      exact .inl ⟨error, rfl⟩
    · rw [heq]
      exact .inr rfl
  · rename_i hother
    exact .inl ⟨rfl, hother⟩

/-- A new worker has a handle of its own. -/
theorem started_distinct {s : System} (client : ℕ) (kind : WorkerKind)
    (hbelow : ∀ worker ∈ s.workers, worker.handle < s.nextTask)
    (hdistinct : (s.workers.map Worker.handle).Nodup) :
    ((started s client kind).workers.map Worker.handle).Nodup := by
  have hfresh : s.nextTask ∉ s.workers.map Worker.handle := by
    intro hmem
    obtain ⟨worker, hworker, heq⟩ := List.mem_map.mp hmem
    exact absurd heq (Nat.ne_of_lt (hbelow worker hworker))
  simp only [started, System.setClient, List.map_append, List.map_cons, List.map_nil]
  exact List.nodup_append.mpr ⟨hdistinct, List.nodup_singleton _, by simpa using hfresh⟩

/-- A worker that has been started awaits the URL of its check. -/
theorem OnCourse.withWorker (h : OnCourse t) {client : ℕ} {kind : WorkerKind}
    {accepted : ℕ → Option String}
    (hothers : ∀ handle, handle ≠ t.system.nextTask → accepted handle = t.accepted handle)
    (hown : kind = .check → accepted t.system.nextTask = some t.system.remote.manifestUrl) :
    OnCourse { t with system := started t.system client kind, accepted } := by
  have hkept : ∀ worker ∈ t.system.workers, accepted worker.handle = t.accepted worker.handle :=
    fun worker hmem => hothers _ (Nat.ne_of_lt (h.below worker hmem))
  have hcases : ∀ worker ∈ (started t.system client kind).workers,
      worker ∈ t.system.workers ∨ worker = { handle := t.system.nextTask, kind } := by
    intro worker hmem
    exact (List.mem_append.mp hmem).imp_right List.mem_singleton.mp
  refine ⟨⟨fun other hother => ?_, fun worker hmem hkind hsource => ?_⟩,
    fun worker hmem hkind source hsource => ?_, fun worker hmem => ?_, ?_⟩
  · exact h.awaits.1 other (setClient_starting (by simp) other hother)
  · rcases hcases worker hmem with hold | rfl
    · exact (hkept worker hold).trans (h.awaits.2 worker hold hkind hsource)
    · exact hown hkind
  · rcases hcases worker hmem with hold | rfl
    · exact (hkept worker hold).trans (h.reads worker hold hkind source hsource)
    · cases hsource
  · have hnext : (started t.system client kind).nextTask = t.system.nextTask + 1 := rfl
    rcases hcases worker hmem with hold | rfl
    · have hbelow := h.below worker hold
      dsimp only
      omega
    · dsimp only
      omega
  · exact started_distinct client kind h.below h.distinct

/-- A start takes the check of its client to a new worker, or is refused. -/
theorem OnCourse.startWorker (h : OnCourse t) (profile : BuildProfile) (client : ℕ)
    (created : Bool) :
    OnCourse (t.record (takeSection profile true t.system (.startWorker client created))
      (.startWorker client created)) := by
  simp only [Tracked.record]
  rcases takeSection_startWorker profile t.system client created with
    ⟨heq, hother⟩ | ⟨kind, hstarting, ⟨error, heq⟩ | heq⟩
  · rw [heq, if_neg fun hcheck => hother .check hcheck.1]
    exact h
  · have hnot : ¬ (t.system.clients client = .starting .check ∧
        (t.system.setClient client (.refused error)).clients client = .idle) := by
      simp [System.setClient]
    rw [heq, if_neg hnot]
    exact h.of_sublist rfl (setClient_starting (by simp)) (.refl _) rfl
  · have hidle : (started t.system client kind).clients client = .idle := by
      simp [started, System.setClient]
    rw [heq]
    split
    · rename_i hcheck
      refine h.withWorker (fun handle hne => Function.update_of_ne hne _ _) fun _ => ?_
      rw [Function.update_self]
      exact h.awaits.1 client hcheck.1
    · rename_i hcheck
      refine h.withWorker (fun _ _ => rfl) fun hkind => ?_
      rw [hkind] at hstarting
      exact absurd ⟨hstarting, hidle⟩ hcheck

/-- The first section of a worker, of either kind. -/
theorem takeSection_workerEntry (profile : BuildProfile) (s : System) (handle : ℕ) :
    takeSection profile true s (.workerEntry handle) = s ∨
      ∃ worker ∈ s.workers, worker.source = none ∧ ∃ remote source,
        remote.manifestUrl = s.remote.manifestUrl ∧
        (worker.kind = .check → source = s.remote.manifestUrl) ∧
        takeSection profile true s (.workerEntry handle) =
          s.enterWorker worker (remote, some source) := by
  simp only [takeSection, System.withWorker]
  split
  · rename_i worker hfind
    have hmem := List.mem_of_find?_eq_some hfind
    split
    · rename_i hsource _
      exact .inr ⟨worker, hmem, hsource, { s.remote with remoteState := .checking },
        s.remote.manifestUrl, rfl, fun _ => rfl, rfl⟩
    · rename_i hsource hkind
      refine .inr ⟨worker, hmem, hsource, { s.remote with remoteState := .downloading },
        s.remote.baseUrl, rfl, fun hcheck => ?_, rfl⟩
      rw [hkind] at hcheck
      cases hcheck
    · exact .inl rfl
  · exact .inl rfl

/-- A check worker reads the URL that it awaits. -/
theorem OnCourse.workerEntry (h : OnCourse t) (profile : BuildProfile) (handle : ℕ) :
    OnCourse (t.record (takeSection profile true t.system (.workerEntry handle))
      (.workerEntry handle)) := by
  simp only [Tracked.record]
  rcases takeSection_workerEntry profile t.system handle with
    heq | ⟨worker, hmem, hnone, remote, source, hurl, hread, heq⟩
  · rw [heq]
    exact h
  · rw [heq]
    have hcases : ∀ other ∈ (t.system.enterWorker worker (remote, some source)).workers,
        other ∈ t.system.workers ∨ other = { worker with source := some source } :=
      fun other => mem_replace
    refine ⟨⟨fun client hclient => ?_, fun other hother hkind hsource => ?_⟩,
      fun other hother hkind url hsource => ?_, fun other hother => ?_, ?_⟩
    · exact (h.awaits.1 client hclient).trans (congrArg some hurl.symm)
    · rcases hcases other hother with hold | rfl
      · exact (h.awaits.2 other hold hkind hsource).trans (congrArg some hurl.symm)
      · cases hsource
    · rcases hcases other hother with hold | rfl
      · exact h.reads other hold hkind url hsource
      · cases hsource
        rw [hread hkind]
        exact h.awaits.2 worker hmem hkind hnone
    · rcases hcases other hother with hold | rfl
      · exact h.below other hold
      · exact h.below worker hmem
    · have hhandles :
          (t.system.enterWorker worker (remote, some source)).workers.map Worker.handle =
            t.system.workers.map Worker.handle := map_replace _ rfl
      rw [hhandles]
      exact h.distinct

/-- The last section of a worker leaves clients, URL and the other workers. -/
theorem takeSection_workerEnds (profile : BuildProfile) (s : System) {taken : Section}
    (htaken : (∃ handle error, taken = .workerFailed handle error) ∨
      ∃ handle localBase, taken = .workerDone handle localBase) :
    (takeSection profile true s taken).remote.manifestUrl = s.remote.manifestUrl ∧
      (takeSection profile true s taken).clients = s.clients ∧
      (takeSection profile true s taken).workers.Sublist s.workers ∧
      (takeSection profile true s taken).nextTask = s.nextTask := by
  rcases htaken with ⟨handle, error, rfl⟩ | ⟨handle, localBase, rfl⟩
  · simp only [takeSection, System.withWorker]
    split
    · split
      · exact ⟨rfl, rfl, List.erase_sublist, rfl⟩
      · exact ⟨rfl, rfl, .refl _, rfl⟩
    · exact ⟨rfl, rfl, .refl _, rfl⟩
  · simp only [takeSection, System.withWorker]
    split
    · split
      · exact ⟨rfl, rfl, List.erase_sublist, rfl⟩
      · exact ⟨rfl, rfl, List.erase_sublist, rfl⟩
      · exact ⟨rfl, rfl, .refl _, rfl⟩
    · exact ⟨rfl, rfl, .refl _, rfl⟩

variable {fw : Firmware α}

/-- A check worker ends by failing or by publishing its base. -/
theorem taken_checkEnds {s : System} {handle : ℕ} {inputs : CheckInputs} {updater : Updater}
    {taken : Section} (h : (Turn.checkEnds handle inputs updater).taken fw s = some taken) :
    (∃ handle error, taken = .workerFailed handle error) ∨
      ∃ localBase source worker, taken = .workerDone handle localBase ∧
        s.workers.find? (·.handle = handle) = some worker ∧ worker.kind = .check ∧
        worker.source = some source ∧ localBase = deriveBaseUrl source := by
  simp only [Turn.taken] at h
  split at h
  · rename_i number source hfind
    cases hbody : (checkWorkerBody fw inputs source updater).2 with
    | waiting =>
      rw [hbody] at h
      cases h
    | ended result =>
      rw [hbody] at h
      cases result with
      | error error =>
        cases h
        exact .inl ⟨handle, error, rfl⟩
      | ok localBase =>
        cases h
        exact .inr ⟨localBase, source, _, rfl, hfind, rfl, rfl, checkWorkerBody_base hbody⟩
  · cases h

/-- An apply worker ends by failing or by finishing. -/
theorem taken_applyEnds {s : System} {handle : ℕ} {result : Except String Unit}
    {taken : Section} (h : (Turn.applyEnds handle result).taken fw s = some taken) :
    (∃ handle error, taken = .workerFailed handle error) ∨
      ∃ handle localBase, taken = .workerDone handle localBase := by
  simp only [Turn.taken] at h
  split at h
  · cases h
    exact .inl ⟨_, _, rfl⟩
  · cases h
    exact .inr ⟨_, _, rfl⟩
  · cases h

/-- The end of a worker stays on course. -/
theorem OnCourse.workerEnds (h : OnCourse t) (profile : BuildProfile) {taken : Section}
    (htaken : (∃ handle error, taken = .workerFailed handle error) ∨
      ∃ handle localBase, taken = .workerDone handle localBase) :
    OnCourse (t.record (takeSection profile true t.system taken) taken) := by
  obtain ⟨hurl, hclients, hworkers, hnext⟩ := takeSection_workerEnds profile t.system htaken
  have hkept := h.of_sublist hurl (by simp [hclients]) hworkers hnext
  rcases htaken with ⟨_, _, rfl⟩ | ⟨_, _, rfl⟩ <;> exact hkept

/-- A turn that keeps the URL stays on course. -/
theorem OnCourse.follow (h : OnCourse t) (turn : Turn) (hkeeps : KeepsUrl fw.profile t turn) :
    OnCourse (follow fw t turn) := by
  unfold CheckedUrls.follow
  split
  · rename_i taken htaken
    cases turn with
    | requestCheck client url =>
      cases htaken
      exact h.requestCheck fw.profile client url hkeeps
    | requestApply client =>
      cases htaken
      simp only [Tracked.record, takeSection]
      split
      · rcases requestApply_cases true t.system.remote with ⟨error, heq⟩ | ⟨_, _, heq⟩
        · rw [heq]
          exact h
        · rw [heq]
          exact h.of_sublist rfl (setClient_starting (by simp)) (.refl _) rfl
      · exact h
    | startWorker client created =>
      cases htaken
      exact h.startWorker fw.profile client created
    | setFailed client =>
      cases htaken
      simp only [Tracked.record, takeSection]
      split
      · exact h.of_sublist rfl (setClient_starting (s := { t.system with
          remote := RemoteWorkers.setFailed true _ t.system.remote }) (by simp)) (.refl _) rfl
      · exact h
    | workerEntry handle =>
      cases htaken
      exact h.workerEntry fw.profile handle
    | checkEnds handle inputs updater =>
      refine h.workerEnds fw.profile ((taken_checkEnds htaken).imp_right ?_)
      rintro ⟨localBase, _, _, heq, _⟩
      exact ⟨handle, localBase, heq⟩
    | applyEnds handle result => exact h.workerEnds fw.profile (taken_applyEnds htaken)
  · exact h

/-- A turn that keeps the URL fetches what was accepted. -/
theorem fetches_of_keepsUrl (h : OnCourse t) (turn : Turn) (hkeeps : KeepsUrl fw.profile t turn) :
    Fetches fw t turn where
  reads := (h.follow turn hkeeps).reads
  publishes := by
    intro handle inputs updater localBase hturn htaken
    rw [hturn] at htaken
    rcases taken_checkEnds htaken with
      ⟨_, _, heq⟩ | ⟨base, source, worker, heq, hfind, hkind, hsource, hbase⟩
    · cases heq
    · cases heq
      have hmem := List.mem_of_find?_eq_some hfind
      have hhandle : worker.handle = handle := by
        have hfound := List.find?_some hfind
        simpa using hfound
      refine ⟨source, ?_, ?_⟩
      · rw [← hhandle]
        exact h.reads worker hmem hkind source hsource
      · rw [hturn]
        simp only [CheckedUrls.follow, htaken, Tracked.record, takeSection, System.withWorker,
          hfind, hkind, hsource, checkWorkerPublish, if_true, System.endWorker]
        exact ⟨hbase, trivial⟩

/-- At the beginning nothing is on its way. -/
theorem onCourse_begin : OnCourse {} where
  awaits := by
    constructor
    · intro client hstarting
      cases hstarting
    · intro worker hmem
      cases hmem
  reads := by
    intro worker hmem
    cases hmem
  below := by
    intro worker hmem
    cases hmem
  distinct := List.nodup_nil

/-- In every interleaving each check worker reads the URL that its check was
accepted for and publishes the base derived from it, when no check is admitted
with another URL than that of a check on its way. -/
theorem fetches_run (fw : Firmware α) {turns : List Turn}
    (hkeeps : Throughout (follow fw) (KeepsUrl fw.profile) {} turns) :
    Throughout (follow fw) (Fetches fw) {} turns :=
  throughout_imp (I := OnCourse) (fun _ turn h hkeeps => h.follow turn hkeeps)
    (fun _ turn h hkeeps => fetches_of_keepsUrl h turn hkeeps) onCourse_begin hkeeps

/-! ### The condition is needed -/

/-- A check worker that awaits another URL than the one that is set reads that one. -/
theorem not_fetches_workerEntry {worker : Worker} {handle : ℕ}
    (hdistinct : (t.system.workers.map Worker.handle).Nodup) (hmem : worker ∈ t.system.workers)
    (hhandle : worker.handle = handle) (hkind : worker.kind = .check) (hnone : worker.source = none)
    (hother : t.accepted worker.handle ≠ some t.system.remote.manifestUrl) :
    ¬ Fetches fw t (.workerEntry handle) := by
  subst hhandle
  intro hfetches
  have hreads := hfetches.reads
  simp only [CheckedUrls.follow, Turn.taken, Tracked.record, takeSection, System.withWorker,
    find_handle hdistinct hmem, hnone, hkind, checkWorkerEntry, if_true] at hreads
  have hentered := hreads { worker with source := some t.system.remote.manifestUrl }
    (mem_replace_self hmem) hkind _ rfl
  exact hother hentered

/-- Without a task recorded a client starts its check. -/
theorem follow_startWorker {client : ℕ} (hstarting : t.system.clients client = .starting .check)
    (htask : t.system.remote.workerTask = none) :
    follow fw t (.startWorker client true) =
      { t with
        system := started t.system client .check
        accepted := Function.update t.accepted t.system.nextTask (t.requested client) } := by
  have hnext : takeSection fw.profile true t.system (.startWorker client true) =
      started t.system client .check := by
    simp [takeSection, hstarting, RemoteWorkers.startWorker, htask, started]
  have hidle : (started t.system client .check).clients client = .idle := by
    simp [started, System.setClient]
  simp only [CheckedUrls.follow, Turn.taken, Tracked.record]
  rw [hnext, if_pos ⟨hstarting, hidle⟩]

/-- An admitted check sets its URL and leaves the workers. -/
theorem follow_requestCheck {client : ℕ} {url : String} (hidle : t.system.clients client = .idle)
    (hvalid : validManifestUrl fw.profile (trim url) = true)
    (hadmitted : (requestCheck true (trim url) t.system.remote).2 = .ok ()) :
    ∃ next, follow fw t (.requestCheck client url) =
        { t with
          system := next
          requested := Function.update t.requested client (some (trim url)) } ∧
      next.workers = t.system.workers ∧ next.nextTask = t.system.nextTask ∧
      next.remote.manifestUrl = trim url ∧ next.remote.workerTask = none ∧
      ∀ other, other ≠ client → next.clients other = t.system.clients other := by
  rcases takeSection_requestCheck fw.profile t.system client url with
    ⟨_, hrefused⟩ | ⟨_, _, _, htask, heq⟩
  · exact absurd ⟨hidle, hvalid, hadmitted⟩ hrefused
  · have hnow : (takeSection fw.profile true t.system (.requestCheck client url)).clients client =
        .starting .check := by simp [heq, System.setClient]
    refine ⟨takeSection fw.profile true t.system (.requestCheck client url), ?_, ?_⟩
    · simp only [CheckedUrls.follow, Turn.taken, Tracked.record]
      rw [if_pos ⟨hidle, hnow⟩]
    · rw [heq]
      exact ⟨rfl, rfl, rfl, htask, fun other hne => Function.update_of_ne hne _ _⟩

/-- From a service on course, a check that is admitted with another URL than that
of a check on its way can make a worker read the wrong one. -/
theorem not_fetches_of_not_keepsUrl (h : OnCourse t) {turn : Turn}
    (hnot : ¬ KeepsUrl fw.profile t turn) :
    ∃ rest, ¬ Throughout (follow fw) (Fetches fw) t (turn::rest) := by
  cases turn with
  | requestCheck client url =>
    simp only [KeepsUrl, Classical.not_imp] at hnot
    obtain ⟨hidle, hvalid, hadmitted, hawaits⟩ := hnot
    obtain ⟨next, hnext, hworkers, htasks, hurl, htask, hothers⟩ :=
      follow_requestCheck hidle hvalid hadmitted
    have hbelow : ∀ worker ∈ next.workers, worker.handle < next.nextTask := by
      rw [hworkers, htasks]
      exact h.below
    have hdistinct : (next.workers.map Worker.handle).Nodup := by
      rw [hworkers]
      exact h.distinct
    rcases not_and_or.mp hawaits with hclients | hpending
    · -- a client that is about to start its check
      obtain ⟨other, hother⟩ := not_forall.mp hclients
      obtain ⟨hstarting, hrequested⟩ := Classical.not_imp.mp hother
      have hne : other ≠ client := by
        intro hsame
        rw [hsame, hidle] at hstarting
        cases hstarting
      refine ⟨[.startWorker other true, .workerEntry next.nextTask], ?_⟩
      rintro ⟨_, _, hlast, _⟩
      rw [hnext, follow_startWorker ((hothers other hne).trans hstarting) htask] at hlast
      have hmem : (⟨next.nextTask, .check, none⟩ : Worker) ∈ (started next other .check).workers :=
        List.mem_append_right _ (List.mem_singleton_self _)
      have hhandle : (⟨next.nextTask, .check, none⟩ : Worker).handle = next.nextTask := rfl
      refine not_fetches_workerEntry (started_distinct other .check hbelow hdistinct) hmem hhandle
        rfl rfl ?_ hlast
      dsimp only [started, System.setClient]
      rw [Function.update_self, Function.update_of_ne hne, hurl]
      exact hrequested
    · -- a worker before its first section
      obtain ⟨worker, hworker⟩ := not_forall.mp hpending
      simp only [Classical.not_imp] at hworker
      obtain ⟨hmem, hkind, hnone, haccepted⟩ := hworker
      refine ⟨[.workerEntry worker.handle], ?_⟩
      rintro ⟨_, hlast, _⟩
      rw [hnext] at hlast
      rw [← hworkers] at hmem
      rw [← hurl] at haccepted
      exact not_fetches_workerEntry hdistinct hmem rfl hkind hnone haccepted hlast
  | requestApply client => exact absurd trivial hnot
  | startWorker client created => exact absurd trivial hnot
  | setFailed client => exact absurd trivial hnot
  | workerEntry handle => exact absurd trivial hnot
  | checkEnds handle inputs updater => exact absurd trivial hnot
  | applyEnds handle result => exact absurd trivial hnot

/-- A check that nobody overtakes, up to its last section. -/
def singleCheck : List Turn :=
  [.requestCheck 0 " https://updates.local/manifest.json ", .startWorker 0 true, .workerEntry 0,
    .checkEnds 0
      { manifestBody := sampleManifest
        signature := { contentLength := 2, polls := [{ available := 2, stream := [0x30, 0x00] }] }
        base64Encode := fun _ => some "MAA=" } {}]

/-- Such a check fetches from the URL that it was accepted for, and publishes its base. -/
theorem fetches_single :
    Throughout (follow sampleDevice) (Fetches sampleDevice) {} singleCheck := by
  refine fetches_run sampleDevice ⟨?_, trivial, trivial, trivial, trivial⟩
  intro _ _ _
  constructor
  · intro client hstarting
    cases hstarting
  · intro worker hmem
    cases hmem

/-- Two checks with different URLs are admitted before either starts its worker. -/
def overtakenCheck : List Turn :=
  [.requestCheck 0 "https://updates.local/a/manifest.json",
    .requestCheck 1 "https://updates.local/b/manifest.json",
    .startWorker 0 true, .workerEntry 0]

/-- The check that was accepted for the first URL reads the second one. -/
theorem fetches_overtaken :
    (run (follow sampleDevice) {} overtakenCheck).accepted 0 =
        some "https://updates.local/a/manifest.json" ∧
      (run (follow sampleDevice) {} overtakenCheck).system.workers =
        [⟨0, .check, some "https://updates.local/b/manifest.json"⟩] ∧
      ¬ Throughout (follow sampleDevice) (Fetches sampleDevice) {} overtakenCheck := by
  have haccepted : (run (follow sampleDevice) {} overtakenCheck).accepted 0 =
      some "https://updates.local/a/manifest.json" := by decide +kernel
  have hworkers : (run (follow sampleDevice) {} overtakenCheck).system.workers =
      [⟨0, .check, some "https://updates.local/b/manifest.json"⟩] := by decide +kernel
  refine ⟨haccepted, hworkers, fun hfetches => ?_⟩
  rw [throughout_iff] at hfetches
  have hreads := (hfetches (overtakenCheck.take 3) _ [] rfl).reads
  have hread : (run (follow sampleDevice) {} overtakenCheck).accepted 0 =
      some "https://updates.local/b/manifest.json" := by
    refine hreads ⟨0, .check, some "https://updates.local/b/manifest.json"⟩ ?_ rfl _ rfl
    have hmem : (⟨0, .check, some "https://updates.local/b/manifest.json"⟩ : Worker) ∈
        (run (follow sampleDevice) {} overtakenCheck).system.workers := by
      rw [hworkers]
      exact List.mem_singleton_self _
    exact hmem
  rw [haccepted] at hread
  exact absurd hread (by decide)

end ProjEsp32.CheckedUrls
