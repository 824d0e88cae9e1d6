import ProjEsp32.RemoteStatus

/-!
# What the clients of the remote update are told

A call of `requestCheck` or `requestApply` takes up to three locked sections, between
which other clients and workers take theirs. It returns from one of them. Every call
returns once, and the calls that return `true` are those that have created a worker.
-/

namespace ProjEsp32.RemoteCalls

open ArduinoText CheckedResult FirmwareUpdate JsonStrings RemoteTransfer RemoteWorkers
open TransitionRuns

variable {profile : BuildProfile} {locked : Bool} {s t : System}

/-- What a call returns: nothing, or the error that it reports. -/
abbrev Answer := Except String Unit

/-- The call has returned `true`. -/
def Answer.accepted : Answer → Bool
  | .ok _ => true
  | .error _ => false

/-- The client that begins a call with the section. -/
def begins (s : System) : Section → Option ℕ
  | .requestCheck client _ => if s.clients client = .idle then some client else none
  | .requestApply client => if s.clients client = .idle then some client else none
  | _ => none

/-- A first section that is refused ends the call. -/
def turnsAway (client : ℕ) : Remote × Answer → Option (ℕ × Answer)
  | (_, .ok _) => none
  | (_, .error error) => some (client, .error error)

/-- The client whose call returns from the section, with what it returns. -/
def returns (profile : BuildProfile) (locked : Bool) (s : System) :
    Section → Option (ℕ × Answer)
  | .requestCheck client requestedUrl =>
    if s.clients client = .idle then
      if validManifestUrl profile (trim requestedUrl) = true then
        turnsAway client (requestCheck locked (trim requestedUrl) s.remote)
      else some (client, .error "manifest_url_invalid")
    else none
  | .requestApply client =>
    if s.clients client = .idle then turnsAway client (requestApply locked s.remote) else none
  | .startWorker client created =>
    match s.clients client with
    | .starting _ =>
      match startWorker locked created s.nextTask s.remote with
      | (_, .ok _) => some (client, .ok ())
      | (_, .error _) => none
    | _ => none
  | .setFailed client =>
    match s.clients client with
    | .refused error => some (client, .error error)
    | _ => none
  | _ => none

/-- What a section does to the clients and to the count of tasks, with the call that
begins with it and the one that returns from it. -/
inductive Effect (s t : System) : Option ℕ → Option (ℕ × Answer) → Prop
  | aside (hclients : t.clients = s.clients) (hnext : t.nextTask = s.nextTask) :
    Effect s t none none
  | turnedAway (client : ℕ) (error : String) (hidle : s.clients client = .idle)
    (herror : IsLegible error) (hclients : t.clients = s.clients)
    (hnext : t.nextTask = s.nextTask) : Effect s t (some client) (some (client, .error error))
  | admitted (client : ℕ) (kind : WorkerKind) (hidle : s.clients client = .idle)
    (hclients : t.clients = Function.update s.clients client (.starting kind))
    (hnext : t.nextTask = s.nextTask) : Effect s t (some client) none
  | refused (client : ℕ) (kind : WorkerKind) (error : String)
    (hstarting : s.clients client = .starting kind) (herror : IsLegible error)
    (hclients : t.clients = Function.update s.clients client (.refused error))
    (hnext : t.nextTask = s.nextTask) : Effect s t none none
  | started (client : ℕ) (kind : WorkerKind) (hstarting : s.clients client = .starting kind)
    (hclients : t.clients = Function.update s.clients client .idle)
    (hnext : t.nextTask = s.nextTask + 1) : Effect s t none (some (client, .ok ()))
  | reported (client : ℕ) (error : String) (hrefused : s.clients client = .refused error)
    (hclients : t.clients = Function.update s.clients client .idle)
    (hnext : t.nextTask = s.nextTask) : Effect s t none (some (client, .error error))

/-- A refused check reports a legible text. -/
theorem requestCheck_legible (locked : Bool) (url : String) (r : Remote) :
    RefusesWith IsLegible (requestCheck locked url r).2 := by
  unfold requestCheck
  split
  · exact refusesWith_error (by decide)
  split
  · exact refusesWith_error (by decide)
  · exact refusesWith_ok _

/-- A refused apply reports a legible text. -/
theorem requestApply_legible (locked : Bool) (r : Remote) :
    RefusesWith IsLegible (requestApply locked r).2 := by
  unfold requestApply
  split
  · exact refusesWith_error (by decide)
  split
  · exact refusesWith_error (by decide)
  · exact refusesWith_ok _

/-- A first section that its client takes: turned away, or admitted. -/
theorem effect_admitted {client : ℕ} (hidle : s.clients client = .idle) (kind : WorkerKind)
    (out : Remote × Answer) (hlegible : RefusesWith IsLegible out.2) :
    Effect s (s.admitted client kind out) (some client) (turnsAway client out) := by
  obtain ⟨remote, answer⟩ := out
  cases answer with
  | ok _ => exact .admitted client kind hidle rfl rfl
  | error error => exact .turnedAway client error hidle (hlegible error rfl) rfl rfl

/-- The section of a worker moves no client. -/
theorem effect_withWorker {handle : ℕ} {act : Worker → System}
    (hact : ∀ worker, (act worker).clients = s.clients ∧ (act worker).nextTask = s.nextTask) :
    Effect s (s.withWorker handle act) none none := by
  unfold System.withWorker
  split
  · exact .aside (hact _).1 (hact _).2
  · exact .aside rfl rfl

/-- Every section has one of the effects. -/
theorem effect (profile : BuildProfile) (locked : Bool) (s : System) (taken : Section) :
    Effect s (takeSection profile locked s taken) (begins s taken)
      (returns profile locked s taken) := by
  cases taken with
  | requestCheck client requestedUrl =>
    unfold takeSection begins returns
    dsimp only
    by_cases hidle : s.clients client = .idle
    · rw [if_pos hidle, if_pos hidle]
      by_cases hvalid : validManifestUrl profile (trim requestedUrl) = true
      · rw [if_pos ⟨hidle, hvalid⟩, if_pos hvalid]
        exact effect_admitted hidle _ _ (requestCheck_legible _ _ _)
      · rw [if_neg fun h => hvalid h.2, if_neg hvalid]
        exact .turnedAway client _ hidle (by decide) rfl rfl
    · rw [if_neg fun h => hidle h.1, if_neg hidle, if_neg hidle]
      exact .aside rfl rfl
  | requestApply client =>
    unfold takeSection begins returns
    dsimp only
    by_cases hidle : s.clients client = .idle
    · rw [if_pos hidle, if_pos hidle, if_pos hidle]
      exact effect_admitted hidle _ _ (requestApply_legible _ _)
    · rw [if_neg hidle, if_neg hidle, if_neg hidle]
      exact .aside rfl rfl
  | startWorker client created =>
    unfold takeSection begins returns
    dsimp only
    cases hclient : s.clients client with
    | starting kind =>
      have hlegible := RemoteStatus.startWorker_legible locked created s.nextTask s.remote
      dsimp only
      rcases startWorker_outcome locked created s.nextTask s.remote with ⟨error, heq⟩ | heq
      · rw [heq] at hlegible ⊢
        exact .refused client kind error hclient (hlegible error rfl) rfl rfl
      · rw [heq]
        exact .started client kind hclient rfl rfl
    | idle => exact .aside rfl rfl
    | refused error => exact .aside rfl rfl
  | setFailed client =>
    unfold takeSection begins returns
    dsimp only
    cases hclient : s.clients client with
    | refused error => exact .reported client error hclient rfl rfl
    | idle => exact .aside rfl rfl
    | starting kind => exact .aside rfl rfl
  | workerEntry handle =>
    refine effect_withWorker fun worker => ?_
    split
    · cases locked <;> exact ⟨rfl, rfl⟩
    · cases locked <;> exact ⟨rfl, rfl⟩
    · exact ⟨rfl, rfl⟩
  | workerFailed handle error =>
    refine effect_withWorker fun worker => ?_
    split <;> exact ⟨rfl, rfl⟩
  | workerDone handle localBase =>
    refine effect_withWorker fun worker => ?_
    split <;> exact ⟨rfl, rfl⟩

/-! ### Calls and answers -/

/-- The calls of a client under way. -/
def underWay (state : Client) : ℕ := if state = .idle then 0 else 1

/-- An idle client has no call under way. -/
@[simp] theorem underWay_idle : underWay .idle = 0 := rfl

/-- A client that starts a worker has its call under way. -/
@[simp] theorem underWay_starting (kind : WorkerKind) : underWay (.starting kind) = 1 := rfl

/-- A client whose worker was refused has its call under way. -/
@[simp] theorem underWay_refused (error : String) : underWay (.refused error) = 1 := rfl

variable {began : Option ℕ} {returned : Option (ℕ × Answer)}

/-- A call is under way from the section that it begins with to the one that it returns
from. -/
theorem Effect.balance (h : Effect s t began returned) (other : ℕ) :
    began.toList.count other + underWay (s.clients other) =
      returned.toList.countP (·.1 = other) + underWay (t.clients other) := by
  cases h with
  | aside hclients hnext => rw [hclients]; simp
  | turnedAway client error hidle herror hclients hnext =>
    rw [hclients]
    by_cases hsame : client = other
    · simp [hsame]
    · simp [hsame]
  | admitted client kind hidle hclients hnext =>
    rw [hclients]
    by_cases hsame : client = other
    · subst hsame
      simp [hidle]
    · rw [Function.update_of_ne (Ne.symm hsame)]
      simp [hsame]
  | refused client kind error hstarting herror hclients hnext =>
    rw [hclients]
    by_cases hsame : client = other
    · subst hsame
      simp [hstarting]
    · rw [Function.update_of_ne (Ne.symm hsame)]
      simp
  | started client kind hstarting hclients hnext =>
    rw [hclients]
    by_cases hsame : client = other
    · subst hsame
      simp [hstarting]
    · rw [Function.update_of_ne (Ne.symm hsame)]
      simp [hsame]
  | reported client error hrefused hclients hnext =>
    rw [hclients]
    by_cases hsame : client = other
    · subst hsame
      simp [hrefused]
    · rw [Function.update_of_ne (Ne.symm hsame)]
      simp [hsame]

/-- A client whose call returns is idle again. -/
theorem Effect.idle {client : ℕ} {answer : Answer}
    (h : Effect s t began (some (client, answer))) : t.clients client = .idle := by
  cases h with
  | turnedAway client error hidle herror hclients hnext =>
    rw [hclients]
    exact hidle
  | started client kind hstarting hclients hnext =>
    rw [hclients, Function.update_self]
  | reported client error hrefused hclients hnext =>
    rw [hclients, Function.update_self]

/-- Who neither begins nor returns stays under way as it was. -/
theorem Effect.underWay_eq (h : Effect s t began returned) {other : ℕ} (hbegan : began ≠ some other)
    (hreturned : ∀ answer, returned ≠ some (other, answer)) :
    underWay (t.clients other) = underWay (s.clients other) := by
  have hbalance := h.balance other
  have hnone : began.toList.count other = 0 := by
    rw [List.count_eq_zero]
    intro hmem
    exact hbegan (Option.mem_toList.mp hmem)
  have hout : returned.toList.countP (·.1 = other) = 0 := by
    rw [List.countP_eq_zero]
    intro answer hanswer hsame
    rw [decide_eq_true_eq] at hsame
    have hsome : returned = some answer := Option.mem_toList.mp hanswer
    exact hreturned answer.2 (by rw [hsome, ← hsame])
  omega

/-- A call that returns from its first section is of the client that returns. -/
theorem Effect.began_eq {client : ℕ} {answer : Answer}
    (h : Effect s t began (some (client, answer))) : began = none ∨ began = some client := by
  cases h with
  | turnedAway client error hidle herror hclients hnext => exact .inr rfl
  | started client kind hstarting hclients hnext => exact .inl rfl
  | reported client error hrefused hclients hnext => exact .inl rfl

/-- A task is created by the section from which a call returns `true`. -/
theorem Effect.tasks (h : Effect s t began returned) :
    t.nextTask = s.nextTask + returned.toList.countP (·.2.accepted) := by
  cases h with
  | aside hclients hnext => exact hnext
  | turnedAway client error hidle herror hclients hnext => exact hnext
  | admitted client kind hidle hclients hnext => exact hnext
  | refused client kind error hstarting herror hclients hnext => exact hnext
  | started client kind hstarting hclients hnext => exact hnext
  | reported client error hrefused hclients hnext => exact hnext

/-- The texts of all errors are legible. -/
def LegibleErrors (s : System) : Prop :=
  ∀ client error, s.clients client = .refused error → IsLegible error

/-- The errors stay legible where the new state's is. -/
theorem LegibleErrors.update {client : ℕ} {state : Client} (h : LegibleErrors s)
    (hclients : t.clients = Function.update s.clients client state)
    (hstate : ∀ error, state = .refused error → IsLegible error) : LegibleErrors t := by
  intro other error hrefused
  rw [hclients, Function.update_apply] at hrefused
  split at hrefused
  · exact hstate error hrefused
  · exact h other error hrefused

/-- A section leaves and returns legible errors. -/
theorem Effect.legible (h : Effect s t began returned) (hs : LegibleErrors s) :
    LegibleErrors t ∧ ∀ answer ∈ returned.toList, RefusesWith IsLegible answer.2 := by
  have hnone : ∀ answer ∈ (none : Option (ℕ × Answer)).toList,
      RefusesWith IsLegible answer.2 := fun _ hanswer => absurd hanswer List.not_mem_nil
  have hsome (client : ℕ) (answer : Answer) (hanswer : RefusesWith IsLegible answer) :
      ∀ a ∈ (some (client, answer)).toList, RefusesWith IsLegible a.2 := by
    intro a ha
    rw [Option.toList_some, List.mem_singleton] at ha
    rw [ha]
    exact hanswer
  cases h with
  | aside hclients hnext =>
    refine ⟨fun client error hrefused => ?_, hnone⟩
    rw [hclients] at hrefused
    exact hs client error hrefused
  | turnedAway client error hidle herror hclients hnext =>
    refine ⟨fun other text hrefused => ?_, hsome client _ (refusesWith_error herror)⟩
    rw [hclients] at hrefused
    exact hs other text hrefused
  | admitted client kind hidle hclients hnext =>
    exact ⟨hs.update hclients fun _ hstate => (by cases hstate), hnone⟩
  | refused client kind error hstarting herror hclients hnext =>
    refine ⟨hs.update hclients fun text hstate => ?_, hnone⟩
    cases hstate
    exact herror
  | started client kind hstarting hclients hnext =>
    exact ⟨hs.update hclients fun _ hstate => (by cases hstate),
      hsome client _ (refusesWith_ok _)⟩
  | reported client error hrefused hclients hnext =>
    exact ⟨hs.update hclients fun _ hstate => (by cases hstate),
      hsome client _ (refusesWith_error (hs client error hrefused))⟩

/-- The service with the calls so far and with what they have returned; no section reads
them. -/
structure Ledger where
  /-- The clients, the workers and the service. -/
  system : System := {}
  /-- The clients of the calls, in the order in which they began. -/
  calls : List ℕ := []
  /-- What each call has returned to its client. -/
  answers : List (ℕ × Answer) := []

/-- A section, with its entries. -/
def Ledger.take (profile : BuildProfile) (locked : Bool) (l : Ledger) (taken : Section) :
    Ledger where
  system := takeSection profile locked l.system taken
  calls := l.calls ++ (begins l.system taken).toList
  answers := l.answers ++ (returns profile locked l.system taken).toList

/-- Each call of a client has returned once, but for the one under way, and a task has
been created for each that returned `true`. -/
structure Accounted (l : Ledger) : Prop where
  /-- Each call of a client has returned, but for one under way. -/
  calls : ∀ client, l.calls.count client =
    l.answers.countP (·.1 = client) + underWay (l.system.clients client)
  /-- A task has been created for each that was accepted. -/
  tasks : l.system.nextTask = l.answers.countP (·.2.accepted)
  /-- The errors that clients wait with are legible. -/
  errors : LegibleErrors l.system
  /-- And so are those that were returned. -/
  answers : ∀ answer ∈ l.answers, RefusesWith IsLegible answer.2

/-- A section keeps the books. -/
theorem Accounted.take {l : Ledger} (h : Accounted l) (profile : BuildProfile) (locked : Bool)
    (taken : Section) : Accounted (l.take profile locked taken) := by
  have heffect := effect profile locked l.system taken
  obtain ⟨herrors, hanswers⟩ := heffect.legible h.errors
  constructor
  · intro client
    have hcalls := h.calls client
    have hbalance := heffect.balance client
    simp only [Ledger.take, List.count_append, List.countP_append]
    omega
  · have htasks := heffect.tasks
    have hbefore := h.tasks
    simp only [Ledger.take, List.countP_append]
    omega
  · exact herrors
  · intro answer hanswer
    exact (List.mem_append.mp hanswer).elim (h.answers answer) (hanswers answer)

end ProjEsp32.RemoteCalls
