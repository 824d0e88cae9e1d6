import ProjEsp32.NetworkModel

/-!
# Stable readings

Whatever has happened before, readings that stay the same lead the network to one
state, in which it stays: first the end of a loop leaves the portal, then a pass of the
coordinator shows what it reads. From then on a task that is at work makes one attempt
each time it is due, and the others none.
-/

namespace ProjEsp32.ConnectionManager

open CooperativeTask MachineEntries MachineLibrary TransitionRuns
open MqttSettings (MqttConfig mqttConfigured)

variable {machines : EntryMachines AppState Event} {d : Device}
variable {deviceId : String} {config : MqttConfig} {configured up connected : Bool}

/-! ### Attempts -/

/-- The attempt that a task counts. -/
def Job.attempt : Job → Option Act
  | .wifiReconnect => some .wifiAttempt
  | .mqttReconnect => some .mqttAttempt
  | .mqttTelemetry => some .telemetryAttempt
  | .wifiCoordinator => none
  | .mqttCoordinator => none

/-- The act is an attempt. -/
def Act.isAttempt : Act → Bool
  | .wifiAttempt => true
  | .mqttAttempt => true
  | .telemetryAttempt => true
  | _ => false

/-- A task that runs makes an attempt. -/
def Network.tries (configured : Bool) (p : Pass) (n : Network) : Job → Bool
  | .wifiReconnect => n.wifiRetry && !p.first.portalActive && !p.first.wifiUp
  | .mqttReconnect => n.mqttRetry && n.eligible configured p.first && !p.first.mqttConnected
  | .mqttTelemetry => n.telemetry && p.first.mqttConnected
  | .wifiCoordinator => false
  | .mqttCoordinator => false

/-- The call is a pass over this task, which is due and makes an attempt. -/
def Network.attempts (configured : Bool) (n : Network) (job : Job) : Call → Bool
  | .pass other p => decide (other = job) && p.due && n.tries configured p job
  | _ => false

/-- What is added are no attempts. -/
def Quiet (before after : List Act) : Prop :=
  ∃ new, after = before ++ new ∧ ∀ act ∈ new, act.isAttempt = false

/-- Nothing done is no attempt. -/
theorem Quiet.refl (acts : List Act) : Quiet acts acts := ⟨[], by simp⟩

/-- No attempt after no attempt. -/
theorem Quiet.trans {first second third : List Act} (h : Quiet first second)
    (hnext : Quiet second third) : Quiet first third := by
  obtain ⟨new, rfl, hnew⟩ := h
  obtain ⟨more, rfl, hmore⟩ := hnext
  refine ⟨new ++ more, List.append_assoc _ _ _, ?_⟩
  intro act hact
  exact (List.mem_append.mp hact).elim (hnew act) (hmore act)

/-- An act that is no attempt is quiet. -/
theorem Quiet.note (act : Act) (acts : List Act) (hact : act.isAttempt = false) :
    Quiet acts (acts ++ [act]) :=
  ⟨[act], rfl, by simpa using hact⟩

/-- Attempts are counted as before. -/
theorem Quiet.count {before after : List Act} (h : Quiet before after) {act : Act}
    (hact : act.isAttempt = true) : after.count act = before.count act := by
  obtain ⟨new, rfl, hnew⟩ := h
  have hnone : new.count act = 0 := by
    refine List.count_eq_zero.mpr fun hmem => ?_
    rw [hnew act hmem] at hact
    cases hact
  rw [List.count_append, hnone, Nat.add_zero]

/-- The callback of the portal attempts nothing. -/
theorem portalOpened_quiet (h : machines.Documented) (hd : Managed deviceId config d) :
    Quiet d.acts (d.portalOpened machines).acts := by
  rw [portalOpened_eq h hd.mirrored]
  split <;> exact .refl _

/-- The Wi-Fi coordinator attempts nothing. -/
theorem coordinateWifiTasks_quiet (h : machines.Documented) (hd : Managed deviceId config d)
    (r : Reads) : Quiet d.acts (d.coordinateWifiTasks machines false r).acts := by
  have hup : Quiet d.acts (d.seenUp r).acts := by
    unfold Device.seenUp Device.noteWifiUp
    split
    · exact .note .wifiSuccess d.acts rfl
    · exact .refl _
  have hdown : Quiet d.acts (d.seenDown r).acts := by
    unfold Device.seenDown Device.noteWifiDown
    split
    · exact .note .wifiLoss d.acts rfl
    · exact .refl _
  have hswitch (e : Device) : (e.switchReconnect false r).acts = e.acts := by
    unfold Device.switchReconnect
    split
    · split <;> rfl
    · rfl
  unfold Device.coordinateWifiTasks
  split
  · unfold Device.coordinatePortal
    rw [disableIfEnabled_eq]
    exact .refl _
  split
  · rw [coordinateWifiUp_eq h hd]
    exact hup
  · rw [coordinateWifiDown_eq false h hd, hswitch]
    exact hdown

/-- The connection of the client counts no attempt. -/
theorem connectMqtt_quiet (r : Reads) (connects : Bool) (d : Device) :
    Quiet d.acts (d.connectMqtt r connects).1.acts := by
  unfold Device.connectMqtt
  split
  · exact .refl _
  split
  · exact .refl _
  split
  · exact .refl _
  · exact (Quiet.note _ d.acts rfl).trans (.note _ _ rfl)

/-- The MQTT coordinator does nothing but switch tasks. -/
theorem coordinateMqttTasks_acts (testEndpoints : Bool) (r : Reads) (d : Device) :
    (d.coordinateMqttTasks testEndpoints r).acts = d.acts := by
  unfold Device.coordinateMqttTasks
  simp only [disableIfEnabled_eq]
  split
  · rfl
  split
  · split <;> rfl
  split
  · rfl
  split <;> rfl

/-- The end of a loop attempts nothing. -/
theorem finishLoop_quiet (h : machines.Documented) (hd : Managed deviceId config d)
    (r services : Reads) : Quiet d.acts (d.finishLoop machines r services).acts := by
  have hstart (e : Device) : Quiet e.acts (e.startNetworkServices services).acts := by
    unfold Device.startNetworkServices
    split
    · exact .refl _
    · exact .note .startServices e.acts rfl
  have hdone : (if d.appState = .CONFIG_PORTAL then d.trigger machines .EVT_CONFIG_DONE
      else d).acts = d.acts := by
    rw [configDone_eq h hd.mirrored]
    split <;> rfl
  unfold Device.finishLoop
  split
  · exact portalOpened_quiet h hd
  · dsimp only
    split
    · rw [hdone]
      exact .refl _
    · have hstarted := hstart (if d.appState = .CONFIG_PORTAL then
        d.trigger machines .EVT_CONFIG_DONE else d)
      rw [hdone] at hstarted
      exact hstarted

/-- What a task that runs adds, before acts that are no attempts. -/
def Network.tried (configured : Bool) (p : Pass) (n : Network) (job : Job) : List Act :=
  if n.tries configured p job then job.attempt.toList else []

/-- A task that runs adds its attempt when it makes one, and no other. -/
theorem callback_quiet (h : machines.Documented) (hd : Managed deviceId config d) (job : Job)
    (p : Pass) (henabled : d.isEnabled job = true) :
    Quiet (d.acts ++ d.network.tried (mqttConfigured config) p job)
      (callback machines false p job d).acts := by
  unfold Network.tried
  cases job with
  | wifiCoordinator =>
    rw [Network.tries, if_neg Bool.false_ne_true, List.append_nil]
    exact coordinateWifiTasks_quiet h hd p.first
  | mqttCoordinator =>
    rw [Network.tries, if_neg Bool.false_ne_true, List.append_nil]
    change Quiet d.acts (d.coordinateMqttTasks false p.first).acts
    rw [coordinateMqttTasks_acts]
    exact .refl _
  | wifiReconnect =>
    have hretry : d.network.wifiRetry = true := henabled
    have hallowed : d.wifiReconnectAllowedNow false p.first.now = true := rfl
    rw [Network.tries, hretry, Bool.true_and]
    change Quiet _ (d.runWifiReconnectTask false p.first p.again p.succeeds).acts
    unfold Device.runWifiReconnectTask
    rw [hallowed]
    cases p.first.portalActive with
    | true =>
      rw [Bool.not_true, Bool.false_and, if_neg Bool.false_ne_true, List.append_nil]
      exact .refl _
    | false =>
      cases p.first.wifiUp with
      | true =>
        rw [Bool.not_true, Bool.and_false, if_neg Bool.false_ne_true, List.append_nil]
        exact .refl _
      | false => exact .refl _
  | mqttReconnect =>
    have hretry : d.network.mqttRetry = true := henabled
    have hsame := eligible_eq hd p.first
    rw [Network.tries, hretry, Bool.true_and]
    change Quiet _ (d.runMqttReconnectTask false p.first p.again p.succeeds).acts
    unfold Device.runMqttReconnectTask
    rw [hsame]
    cases d.network.eligible (mqttConfigured config) p.first with
    | false =>
      rw [Bool.false_and, if_neg Bool.false_ne_true, List.append_nil]
      exact .refl _
    | true =>
      cases p.first.mqttConnected with
      | true =>
        rw [Bool.not_true, Bool.and_false, if_neg Bool.false_ne_true, List.append_nil]
        exact .refl _
      | false =>
        have hconnect := connectMqtt_quiet p.again p.succeeds (d.attempted p.first)
        simp only [Bool.not_true, Bool.not_false, Bool.and_true, Bool.false_eq_true, if_false,
          if_true]
        change Quiet (d.acts ++ [Act.mqttAttempt]) (Device.acts (if
          ((d.attempted p.first).connectMqtt p.again p.succeeds).2 then _ else _))
        split
        · exact hconnect.trans (.note .mqttSuccess _ rfl)
        · exact hconnect
  | mqttTelemetry =>
    have htelemetry : d.network.telemetry = true := henabled
    rw [Network.tries, htelemetry, Bool.true_and]
    change Quiet _ (d.runMqttTelemetryTask p.first p.again p.succeeds).acts
    unfold Device.runMqttTelemetryTask
    cases p.first.mqttConnected with
    | false =>
      rw [if_neg Bool.false_ne_true, List.append_nil]
      exact .refl _
    | true =>
      have hsent : Quiet (d.acts ++ [Act.telemetryAttempt]) (d.sending p.first).acts :=
        .note (.publish d.topics.topicTelemetry) _ rfl
      cases p.succeeds with
      | true => exact hsent.trans (.note .telemetryPublish _ rfl)
      | false => exact hsent

/-- What a task adds counts for its own attempt only. -/
theorem count_tried (p : Pass) (n : Network) {job other : Job} {act : Act}
    (hact : other.attempt = some act) :
    (n.tried configured p job).count act =
      (decide (job = other) && n.tries configured p other).toNat := by
  unfold Network.tried
  by_cases hsame : job = other
  · subst hsame
    rw [hact, decide_eq_true rfl, Bool.true_and]
    cases n.tries configured p job with
    | true => exact List.count_singleton_self
    | false => rfl
  · have hdifferent : act ∉ job.attempt.toList := by
      intro hmem
      refine hsame ?_
      rw [Option.mem_toList] at hmem
      cases job <;> cases other <;> first | rfl | (cases hact; cases hmem) | cases hact
    rw [decide_eq_false hsame, Bool.false_and]
    split
    · exact List.count_eq_zero.mpr hdifferent
    · rfl

/-- Each call adds the attempt of a task that is due and makes one, and no other. -/
theorem call_attempts (h : machines.Documented) (hd : Managed deviceId config d) {job : Job}
    {act : Act} (hact : job.attempt = some act) (c : Call) :
    (call machines false d c).acts.count act =
      d.acts.count act + (d.network.attempts (mqttConfigured config) job c).toNat := by
  have hattempt : act.isAttempt = true := by
    cases job <;> cases hact <;> rfl
  cases c with
  | process portalOpens =>
    cases portalOpens with
    | true =>
      change ((d.portalOpened machines).runMachine machines).acts.count act = _
      rw [runMachine_eq h (hd.portalOpened h).mirrored]
      exact (portalOpened_quiet h hd).count hattempt
    | false =>
      change (d.runMachine machines).acts.count act = _
      rw [runMachine_eq h hd.mirrored]
      rfl
  | pass other p =>
    change (passTask machines false other p d).acts.count act = _
    rw [passTask_eq hd, Network.attempts]
    cases p.due with
    | false =>
      rw [Bool.and_false, if_neg Bool.false_ne_true, Bool.and_false, Bool.false_and]
      rfl
    | true =>
      rw [Bool.and_true, Bool.and_true]
      cases henabled : d.isEnabled other with
      | true =>
        rw [if_pos rfl, (callback_quiet h hd other p henabled).count hattempt, List.count_append,
          count_tried p d.network hact]
      | false =>
        rw [if_neg Bool.false_ne_true]
        by_cases hsame : other = job
        · subst hsame
          have hidle : d.network.tries (mqttConfigured config) p other = false := by
            cases other with
            | wifiCoordinator => rfl
            | mqttCoordinator => rfl
            | wifiReconnect =>
              have hretry : d.network.wifiRetry = false := henabled
              rw [Network.tries, hretry, Bool.false_and, Bool.false_and]
            | mqttReconnect =>
              have hretry : d.network.mqttRetry = false := henabled
              rw [Network.tries, hretry, Bool.false_and, Bool.false_and]
            | mqttTelemetry =>
              have htelemetry : d.network.telemetry = false := henabled
              rw [Network.tries, htelemetry, Bool.false_and]
          rw [hidle, Bool.and_false]
          rfl
        · rw [decide_eq_false hsame, Bool.false_and]
          rfl
  | finishLoop r services => exact (finishLoop_quiet h hd r services).count hattempt
  | webConnect r connects =>
    change (if d.webStarted then (d.connectMqtt r connects).1 else d).acts.count act = _
    split
    · exact (connectMqtt_quiet r connects d).count hattempt
    · rfl
  | suppressMqtt now => rfl
  | suppressWifi now => rfl

/-! ### The radio -/

/-- The portal is closed and the radio is as it is said to be. -/
def Reads.Steady (up : Bool) (r : Reads) : Prop := r.portalActive = false ∧ r.wifiUp = up

/-- Every reading of the call is of a closed portal and such a radio. -/
def Call.Steady (up : Bool) : Call → Prop
  | .process portalOpens => portalOpens = false
  | .pass _ p => p.first.Steady up ∧ p.again.Steady up
  | .finishLoop r services => r.Steady up ∧ services.Steady up
  | .webConnect r _ => r.Steady up
  | .suppressMqtt _ => True
  | .suppressWifi _ => True

/-- The call is the end of a loop. -/
def Call.isFinish : Call → Bool
  | .finishLoop _ _ => true
  | _ => false

/-- The call is a pass over the task, which is due. -/
def Call.isDue (job : Job) : Call → Bool
  | .pass other p => decide (other = job) && p.due
  | _ => false

namespace Network

variable {n : Network} {c : Call}

/-- A pass runs its task when it is due. -/
theorem next_pass (configured : Bool) (n : Network) (job : Job) (p : Pass) :
    n.next configured (.pass job p) = if p.due then n.runs configured p job else n := rfl

/-- The end of a loop finishes it. -/
theorem next_finishLoop (configured : Bool) (n : Network) (r services : Reads) :
    n.next configured (.finishLoop r services) = n.finish r services := rfl

/-- The portal has been left, and the services are started with the radio up. -/
structure Left (up : Bool) (n : Network) : Prop where
  /-- The portal is not shown. -/
  state : n.state ≠ .CONFIG_PORTAL
  /-- With the radio up the services are started. -/
  started : up = true → n.started = true

/-- The radio is shown as it is, and reconnected when it is down. -/
structure Shown (up : Bool) (n : Network) : Prop where
  /-- The application is online exactly when the radio is up. -/
  state : n.state = if up then .ONLINE else .OFFLINE
  /-- The radio is reconnected exactly when it is down. -/
  retry : n.wifiRetry = !up

/-- Under steady readings a pass of the coordinator shows the radio. -/
theorem shown_coordinateWifi {r : Reads} (hsteady : r.Steady up) (hleft : n.Left up) :
    (n.coordinateWifi r).Shown up := by
  obtain ⟨hportal, hup⟩ := hsteady
  unfold coordinateWifi
  rw [hportal, hup, if_neg Bool.false_ne_true, if_neg hleft.state]
  exact ⟨rfl, rfl⟩

/-- Under steady readings a portal that has been left stays so. -/
theorem left_next (hsteady : c.Steady up) (hleft : n.Left up) :
    (n.next configured c).Left up := by
  obtain ⟨hstate, hstarted⟩ := hleft
  cases c with
  | process portalOpens =>
    cases hsteady
    exact ⟨hstate, hstarted⟩
  | pass job p =>
    have hcoordinate : (n.coordinateWifi p.first).Left up := by
      have hshown := shown_coordinateWifi hsteady.1 ⟨hstate, hstarted⟩
      refine ⟨?_, fun hup => ?_⟩
      · rw [hshown.state]
        cases up <;> decide
      · unfold coordinateWifi
        split <;> exact hstarted hup
    rw [next_pass]
    cases p.due with
    | false => exact ⟨hstate, hstarted⟩
    | true => cases job <;> first | exact hcoordinate | exact ⟨hstate, hstarted⟩
  | finishLoop r services =>
    obtain ⟨⟨hportal, hup⟩, -⟩ := hsteady
    rw [next_finishLoop, finish]
    rw [hportal, if_neg Bool.false_ne_true, if_neg hstate]
    refine ⟨hstate, fun hopen => ?_⟩
    rw [hstarted hopen]
    rfl
  | webConnect r connects => exact ⟨hstate, hstarted⟩
  | suppressMqtt now => exact ⟨hstate, hstarted⟩
  | suppressWifi now => exact ⟨hstate, hstarted⟩

/-- Under steady readings the end of a loop leaves the portal. -/
theorem left_of_isFinish (hsteady : c.Steady up) (hfinish : c.isFinish = true) :
    (n.next configured c).Left up := by
  cases c with
  | finishLoop r services =>
    obtain ⟨⟨hportal, hup⟩, hportal', hup'⟩ := hsteady
    rw [next_finishLoop, finish]
    rw [hportal, if_neg Bool.false_ne_true, hup, hup', hportal']
    constructor
    · by_cases hstate : n.state = .CONFIG_PORTAL
      · rw [if_pos hstate]
        exact fun hshown => by cases hshown
      · rw [if_neg hstate]
        exact hstate
    · rintro rfl
      rw [Bool.and_self, Bool.not_false, Bool.and_self, Bool.or_true]
  | process portalOpens => cases hfinish
  | pass job p => cases hfinish
  | webConnect r connects => cases hfinish
  | suppressMqtt now => cases hfinish
  | suppressWifi now => cases hfinish

/-- Under steady readings a due pass of the coordinator shows the radio. -/
theorem shown_of_isDue (hsteady : c.Steady up) (hdue : c.isDue .wifiCoordinator = true)
    (hleft : n.Left up) : (n.next configured c).Shown up := by
  cases c with
  | pass job p =>
    rw [Call.isDue, Bool.and_eq_true, decide_eq_true_eq] at hdue
    obtain ⟨rfl, hdue⟩ := hdue
    rw [next_pass, hdue]
    exact shown_coordinateWifi hsteady.1 hleft
  | process portalOpens => cases hdue
  | finishLoop r services => cases hdue
  | webConnect r connects => cases hdue
  | suppressMqtt now => cases hdue
  | suppressWifi now => cases hdue

/-- A radio that is shown as it is stays so. -/
theorem shown_next (hsteady : c.Steady up) (hleft : n.Left up) (hshown : n.Shown up) :
    (n.next configured c).Shown up := by
  obtain ⟨hstate, hretry⟩ := hshown
  cases c with
  | process portalOpens =>
    cases hsteady
    exact ⟨hstate, hretry⟩
  | pass job p =>
    rw [next_pass]
    cases p.due with
    | false => exact ⟨hstate, hretry⟩
    | true =>
      cases job with
      | wifiCoordinator => exact shown_coordinateWifi hsteady.1 hleft
      | wifiReconnect =>
        obtain ⟨⟨hportal, hup⟩, -⟩ := hsteady
        refine ⟨hstate, ?_⟩
        change (n.wifiRetry && !p.first.portalActive && !p.first.wifiUp) = !up
        rw [hretry, hportal, hup]
        cases up <;> rfl
      | mqttCoordinator => exact ⟨hstate, hretry⟩
      | mqttReconnect => exact ⟨hstate, hretry⟩
      | mqttTelemetry => exact ⟨hstate, hretry⟩
  | finishLoop r services =>
    obtain ⟨⟨hportal, hup⟩, -⟩ := hsteady
    rw [next_finishLoop, finish]
    rw [hportal, if_neg Bool.false_ne_true, if_neg hleft.state]
    exact ⟨hstate, hretry⟩
  | webConnect r connects => exact ⟨hstate, hretry⟩
  | suppressMqtt now => exact ⟨hstate, hretry⟩
  | suppressWifi now => exact ⟨hstate, hretry⟩

/-- With the radio shown as it is, each due pass over its task makes an attempt when it
is down, and none when it is up. -/
theorem attempts_of_shown (hsteady : c.Steady up) (hshown : n.Shown up) :
    n.attempts configured .wifiReconnect c = (!up && c.isDue .wifiReconnect) := by
  cases c with
  | pass job p =>
    obtain ⟨⟨hportal, hup⟩, -⟩ := hsteady
    rw [attempts, Call.isDue, tries, hshown.retry, hportal, hup]
    cases up <;> cases decide (job = .wifiReconnect) <;> cases p.due <;> rfl
  | process portalOpens => exact (Bool.and_false _).symm
  | finishLoop r services => exact (Bool.and_false _).symm
  | webConnect r connects => exact (Bool.and_false _).symm
  | suppressMqtt now => exact (Bool.and_false _).symm
  | suppressWifi now => exact (Bool.and_false _).symm

end Network

/-- Under steady readings the end of a loop leaves the portal, for the rest of a run. -/
theorem left_run (n : Network) {before between : List Call} {finish : Call}
    (hfinish : finish.isFinish = true)
    (hsteady : ∀ c ∈ before ++ finish :: between, c.Steady up) :
    (run (Network.next configured) n (before ++ finish :: between)).Left up := by
  refine run_settles (I := fun _ => True) (P := fun _ c => c.Steady up)
    (T := fun _ c => c.isFinish = true) (fun _ _ _ _ => trivial) ?_ ?_ trivial
    (throughout_of_forall n hsteady) hfinish
  · exact fun n c _ hsteady hfinish => Network.left_of_isFinish hsteady hfinish
  · exact fun n c _ hleft hsteady => Network.left_next hsteady hleft

/-- A task that makes an attempt in each due pass, or in none, makes as many of them
along a run. -/
theorem attempts_run (h : machines.Documented) (hd : Managed deviceId config d) (job : Job)
    {act : Act} (hact : job.attempt = some act) (busy : Bool) {I : Network → Prop}
    {C : Call → Prop} (hkeep : ∀ n c, I n → C c → I (n.next (mqttConfigured config) c))
    (hattempts : ∀ n c, I n → C c →
      n.attempts (mqttConfigured config) job c = (busy && c.isDue job))
    (hstart : I d.network) {calls : List Call} (hcalls : ∀ c ∈ calls, C c) :
    (run (call machines false) d calls).acts.count act =
      d.acts.count act + if busy then calls.countP (Call.isDue job) else 0 := by
  induction calls generalizing d with
  | nil => cases busy <;> rfl
  | cons c calls ih =>
    obtain ⟨hhead, htail⟩ := List.forall_mem_cons.mp hcalls
    have hmanaged : Managed deviceId config (call machines false d c) := hd.call h c
    have hcount := call_attempts h hd hact c
    have hnext : I (call machines false d c).network := by
      rw [call_network h hd c]
      exact hkeep _ c hstart hhead
    rw [hattempts _ c hstart hhead] at hcount
    rw [run_cons, ih hmanaged hnext htail, hcount, List.countP_cons]
    cases busy with
    | false => rfl
    | true =>
      cases c.isDue job with
      | true =>
        simp only [Bool.and_self, Bool.toNat_true, if_true]
        omega
      | false => simp

/-- What it shows is what the model makes of the calls. -/
theorem network_of_run (h : machines.Documented) (hd : Managed deviceId config d)
    (calls : List Call) : (run (call machines false) d calls).network =
      run (Network.next (mqttConfigured config)) d.network calls :=
  view_run (I := Managed deviceId config) (fun _ c hd => Managed.call h hd c)
    (fun _ c hd => call_network h hd c) hd calls

/-- Behind the end of a loop, a due pass of a coordinator reaches what every later call
keeps, for the rest of a run. -/
theorem reached_run (h : machines.Documented) (hd : Managed deviceId config d) {job : Job}
    {G : Network → Prop} {C : Call → Prop} (hsteady : ∀ c, C c → c.Steady up)
    (hreach : ∀ (n : Network) c, n.Left up → C c → c.isDue job = true →
      G (n.next (mqttConfigured config) c))
    (hstay : ∀ (n : Network) c, n.Left up → G n → C c → G (n.next (mqttConfigured config) c))
    {before between : List Call} {finish : Call} (hfinish : finish.isFinish = true)
    (hbefore : ∀ c ∈ before ++ finish :: between, c.Steady up) {pass : Call}
    (hdue : pass.isDue job = true) {after : List Call} (hcalls : ∀ c ∈ pass :: after, C c) :
    (run (call machines false) d (before ++ finish :: between ++ pass :: after)).network.Left up ∧
      G (run (call machines false) d (before ++ finish :: between ++ pass :: after)).network := by
  rw [network_of_run h hd]
  constructor
  · rw [List.append_assoc, List.cons_append]
    refine left_run _ hfinish fun c hc => ?_
    have hmem : c ∈ before ++ finish :: between ∨ c ∈ pass :: after := by
      simp only [List.mem_append, List.mem_cons] at hc ⊢
      tauto
    exact hmem.elim (hbefore c) fun hc => hsteady c (hcalls c hc)
  · rw [run_append]
    change G (run _ _ ([] ++ pass :: after))
    exact run_settles (I := Network.Left up) (P := fun _ c => C c)
      (T := fun _ c => c.isDue job = true)
      (fun n c hleft hc => Network.left_next (hsteady c hc) hleft) hreach hstay
      (left_run _ hfinish hbefore) (throughout_of_forall _ hcalls) hdue

/-- A run behind a past, with a call of it named. -/
theorem run_behind (start : Device) (past front rest : List Call) (pass : Call) :
    run (call machines false) (run (call machines false) start (past ++ (front ++ [pass]))) rest =
      run (call machines false) (run (call machines false) start past) (front ++ pass :: rest) := by
  rw [← run_append, ← run_append, List.append_assoc, List.append_assoc, List.singleton_append]

/-- Whatever has happened before, a closed portal and a radio that stays up or down,
through the end of a loop and then a due pass of the coordinator, lead the device to
show it, and it stays so: `ONLINE` with the services started and the radio left alone, or
`OFFLINE` with one attempt to reconnect it for each time the task is due. -/
theorem wifi_settles (h : machines.Documented) (s : Start) (deviceId : String)
    (config : MqttConfig) {up : Bool} (past before between : List Call) {finish pass : Call}
    {after : List Call} (hfinish : finish.isFinish = true)
    (hbefore : ∀ c ∈ before ++ finish :: between, c.Steady up)
    (hdue : pass.isDue .wifiCoordinator = true) (hcalls : ∀ c ∈ pass :: after, c.Steady up) :
    let shown := run (call machines false) (setup machines s deviceId config)
      (past ++ (before ++ finish :: between ++ [pass]))
    let later := run (call machines false) shown after
    later.network.Left up ∧ later.network.Shown up ∧
      later.acts.count .wifiAttempt = shown.acts.count .wifiAttempt +
        if up then 0 else after.countP (Call.isDue .wifiReconnect) := by
  intro shown later
  have hstart := setup_managed h s deviceId config
  have hreached (rest : List Call) (hrest : ∀ c ∈ pass :: rest, c.Steady up) :
      (run (call machines false) shown rest).network.Left up ∧
        (run (call machines false) shown rest).network.Shown up := by
    rw [run_behind]
    exact reached_run h (managed_run h false hstart past) (fun _ hc => hc)
      (fun n c hleft hc hdue => Network.shown_of_isDue hc hdue hleft)
      (fun n c hleft hshown hc => Network.shown_next hc hleft hshown) hfinish hbefore hdue hrest
  have hnow := hreached [] fun c hc => hcalls c (by simp at hc; simp [hc])
  have hshown := managed_run h false hstart (past ++ (before ++ finish :: between ++ [pass]))
  have hattempts := attempts_run h hshown Job.wifiReconnect rfl (!up)
    (I := fun n => n.Left up ∧ n.Shown up) (C := Call.Steady up)
    (fun n c hn hc => ⟨Network.left_next hc hn.1, Network.shown_next hc hn.1 hn.2⟩)
    (fun n c hn hc => Network.attempts_of_shown hc hn.2) hnow
    fun c hc => hcalls c (List.mem_cons_of_mem pass hc)
  refine ⟨(hreached after hcalls).1, (hreached after hcalls).2, hattempts.trans ?_⟩
  cases up <;> rfl

/-- The radio stays down, and the device shows it. -/
theorem wifi_settles_sample :
    (run (call sampleEntryMachines false)
      (run (call sampleEntryMachines false)
        (setup sampleEntryMachines sampleStart "10A2CCEF49C0" sampleConfig)
        ([.process true] ++ ([] ++ [.finishLoop (sampleReads false false 2)
          (sampleReads false false 2)] ++ [.pass .wifiCoordinator
            (samplePass (sampleReads false false 250))])))
      [.pass .wifiReconnect (samplePass (sampleReads false false 250)),
        .pass .wifiReconnect (samplePass (sampleReads false false 5250))]).network.Shown false :=
  (wifi_settles sampleEntryMachines_documented sampleStart "10A2CCEF49C0" sampleConfig
    [.process true] [] [] rfl (by simp [Call.Steady, Reads.Steady, sampleReads]) rfl
    (by simp [Call.Steady, Reads.Steady, samplePass, sampleReads])).2.1

/-! ### The broker -/

/-- The client is as it is said to be in every reading of the call, and no attempt to
connect it succeeds. -/
def Call.Linked (connected : Bool) : Call → Prop
  | .pass _ p => p.first.mqttConnected = connected ∧ p.again.mqttConnected = connected ∧
    (connected = false → p.succeeds = false)
  | .webConnect r connects => r.mqttConnected = connected ∧ (connected = false → connects = false)
  | .process _ => True
  | .finishLoop _ _ => True
  | .suppressMqtt _ => True
  | .suppressWifi _ => True

namespace Network

variable {n : Network} {c : Call}

/-- With settings, telemetry is sent when the client is connected, and otherwise it is
to be connected. -/
structure Served (configured connected : Bool) (n : Network) : Prop where
  /-- The client is to be connected when it can and is not. -/
  retry : n.mqttRetry = (configured && !connected)
  /-- Telemetry is sent when it is connected. -/
  telemetry : n.telemetry = (configured && connected)

/-- With the services started and the radio up, settings are all that is needed. -/
theorem eligible_of_left (configured : Bool) {r : Reads} (hleft : n.Left true)
    (hsteady : r.Steady true) :
    n.eligible configured r = configured := by
  rw [eligible, hleft.started rfl, hsteady.1, hsteady.2]
  rfl

/-- Under such readings a due pass of the coordinator serves the client. -/
theorem served_of_isDue (hsteady : c.Steady true) (hlinked : c.Linked connected)
    (hdue : c.isDue .mqttCoordinator = true) (hleft : n.Left true) :
    (n.next configured c).Served configured connected := by
  cases c with
  | pass job p =>
    rw [Call.isDue, Bool.and_eq_true, decide_eq_true_eq] at hdue
    obtain ⟨rfl, hdue⟩ := hdue
    have heligible := eligible_of_left configured hleft hsteady.1
    rw [next_pass, hdue, if_pos rfl]
    constructor
    · change (n.eligible configured p.first && !p.first.mqttConnected) = _
      rw [heligible, hlinked.1]
    · change (n.eligible configured p.first && p.first.mqttConnected) = _
      rw [heligible, hlinked.1]
  | process portalOpens => cases hdue
  | finishLoop r services => cases hdue
  | webConnect r connects => cases hdue
  | suppressMqtt now => cases hdue
  | suppressWifi now => cases hdue

/-- A client that is served stays so. -/
theorem served_next (hsteady : c.Steady true) (hlinked : c.Linked connected)
    (hleft : n.Left true) (hserved : n.Served configured connected) :
    (n.next configured c).Served configured connected := by
  obtain ⟨hretry, htelemetry⟩ := hserved
  cases c with
  | process portalOpens =>
    cases hsteady
    exact ⟨hretry, htelemetry⟩
  | pass job p =>
    have heligible := eligible_of_left configured hleft hsteady.1
    obtain ⟨hfirst, hagain, hfails⟩ := hlinked
    cases hdue : p.due with
    | false =>
      rw [next_pass, hdue]
      exact ⟨hretry, htelemetry⟩
    | true =>
      cases job with
      | mqttCoordinator =>
        exact served_of_isDue hsteady ⟨hfirst, hagain, hfails⟩ hdue hleft
      | wifiCoordinator =>
        have hsame : (n.coordinateWifi p.first).mqttRetry = n.mqttRetry ∧
            (n.coordinateWifi p.first).telemetry = n.telemetry := by
          unfold coordinateWifi
          split <;> exact ⟨rfl, rfl⟩
        rw [next_pass, hdue]
        exact ⟨hsame.1.trans hretry, hsame.2.trans htelemetry⟩
      | wifiReconnect =>
        rw [next_pass, hdue]
        exact ⟨hretry, htelemetry⟩
      | mqttReconnect =>
        rw [next_pass, hdue]
        refine ⟨?_, htelemetry⟩
        change (n.mqttRetry && n.eligible configured p.first && !p.first.mqttConnected &&
          !connects configured p) = _
        rw [hretry, heligible, hfirst]
        cases connected with
        | true => simp
        | false =>
          rw [connects, hsteady.2.2, hagain, hfails rfl]
          cases configured <;> rfl
      | mqttTelemetry =>
        rw [next_pass, hdue]
        refine ⟨hretry, ?_⟩
        change (n.telemetry && p.first.mqttConnected) = _
        rw [htelemetry, hfirst, Bool.and_assoc, Bool.and_self]
  | finishLoop r services =>
    rw [next_finishLoop, finish]
    split <;> exact ⟨hretry, htelemetry⟩
  | webConnect r connects => exact ⟨hretry, htelemetry⟩
  | suppressMqtt now => exact ⟨hretry, htelemetry⟩
  | suppressWifi now => exact ⟨hretry, htelemetry⟩

/-- A client that is served is connected or sent to whenever the task for it is due. -/
theorem attempts_of_served (hsteady : c.Steady true) (hlinked : c.Linked connected)
    (hleft : n.Left true) (hserved : n.Served configured connected) :
    n.attempts configured .mqttReconnect c =
        (configured && !connected && c.isDue .mqttReconnect) ∧
      n.attempts configured .mqttTelemetry c =
        (configured && connected && c.isDue .mqttTelemetry) := by
  cases c with
  | pass job p =>
    have heligible := eligible_of_left configured hleft hsteady.1
    obtain ⟨hfirst, -, -⟩ := hlinked
    rw [attempts, attempts, Call.isDue, Call.isDue, tries, tries, hserved.retry, hserved.telemetry,
      heligible, hfirst]
    cases configured <;> cases connected <;> cases p.due <;> cases job <;> exact ⟨rfl, rfl⟩
  | process portalOpens => exact ⟨(Bool.and_false _).symm, (Bool.and_false _).symm⟩
  | finishLoop r services => exact ⟨(Bool.and_false _).symm, (Bool.and_false _).symm⟩
  | webConnect r connects => exact ⟨(Bool.and_false _).symm, (Bool.and_false _).symm⟩
  | suppressMqtt now => exact ⟨(Bool.and_false _).symm, (Bool.and_false _).symm⟩
  | suppressWifi now => exact ⟨(Bool.and_false _).symm, (Bool.and_false _).symm⟩

end Network

/-- The readings of an attempt that connects the client. -/
structure Pass.Connects (p : Pass) : Prop where
  /-- The task is due. -/
  due : p.due = true
  /-- The attempt succeeds. -/
  succeeds : p.succeeds = true
  /-- The radio is up when it is looked at first. -/
  first : p.first.Steady true
  /-- And when it is looked at again. -/
  again : p.again.Steady true
  /-- The client was not connected. -/
  wasNot : p.first.mqttConnected = false
  /-- And still is not when it is looked at again. -/
  isNot : p.again.mqttConnected = false

/-- An attempt that succeeds subscribes to the commands, says so and is the last one. -/
theorem connects_call (h : machines.Documented) (hd : Managed deviceId config d)
    (hleft : d.network.Left true) (hconfigured : mqttConfigured config = true)
    (hretry : d.network.mqttRetry = true) {p : Pass} (hp : p.Connects) :
    (call machines false d (.pass .mqttReconnect p)).acts = d.acts ++
        [.mqttAttempt, .subscribe (topicsOf deviceId).topicCommand,
          .publish (topicsOf deviceId).topicState, .mqttSuccess] ∧
      (call machines false d (.pass .mqttReconnect p)).network.mqttRetry = false := by
  have henabled : d.isEnabled .mqttReconnect = true := hretry
  have heligible := Network.eligible_of_left true hleft hp.first
  have hopen : d.networkServicesStarted = true := hleft.started rfl
  have hstops := eligible_eq hd p.first
  have hconnects : Network.connects true p = true := by
    rw [Network.connects, hp.again.2, hp.isNot, hp.succeeds]
    rfl
  rw [hconfigured, heligible] at hstops
  constructor
  · have hpass : call machines false d (.pass .mqttReconnect p) =
        d.runMqttReconnectTask false p.first p.again p.succeeds := by
      change passTask machines false .mqttReconnect p d = _
      rw [passTask_eq hd, henabled, hp.due]
      rfl
    have hconnected : (d.attempted p.first).connectMqtt p.again p.succeeds =
        (((d.attempted p.first).note (.subscribe d.topics.topicCommand)).note
          (.publish d.topics.topicState), true) := by
      have hsettings : mqttConfigured (d.attempted p.first).config = true := by
        rw [← hconfigured, ← hd.settings]
        rfl
      unfold Device.connectMqtt
      rw [hp.again.2, hp.isNot, hp.succeeds, hsettings]
      rfl
    have hreturns : ((d.attempted p.first).connectMqtt p.again p.succeeds).2 = true := by
      rw [hconnected]
    have hacts : ((d.attempted p.first).connectMqtt p.again p.succeeds).1.acts = d.acts ++
        [.mqttAttempt] ++ [.subscribe (topicsOf deviceId).topicCommand] ++
          [.publish (topicsOf deviceId).topicState] := by
      rw [hconnected, hd.services.topics hopen]
      rfl
    rw [hpass]
    unfold Device.runMqttReconnectTask
    rw [hstops, hp.wasNot]
    change Device.acts (if ((d.attempted p.first).connectMqtt p.again p.succeeds).2 then _
      else _) = _
    rw [if_pos hreturns]
    refine (congrArg (· ++ [Act.mqttSuccess]) hacts).trans ?_
    simp only [List.append_assoc, List.singleton_append]
    rfl
  · rw [call_network h hd, Network.next_pass, hp.due]
    change (d.network.mqttRetry && d.network.eligible (mqttConfigured config) p.first &&
      !p.first.mqttConnected && !Network.connects (mqttConfigured config) p) = false
    rw [hconfigured, hconnects, Bool.not_true, Bool.and_false]

/-- With the portal closed and the radio up, the end of a loop, which starts the services,
and then a due pass of its coordinator serve a client that stays connected or not:
connected, telemetry is tried once for each time that task is due; otherwise one attempt is
made for each time the other is due, and the first one that succeeds subscribes to the
commands, says so and ends the attempts. -/
theorem mqtt_settles (h : machines.Documented) (s : Start) (deviceId : String)
    (config : MqttConfig) {connected : Bool} (past before between : List Call) {finish pass : Call}
    {after : List Call} (hfinish : finish.isFinish = true)
    (hbefore : ∀ c ∈ before ++ finish :: between, c.Steady true)
    (hdue : pass.isDue .mqttCoordinator = true)
    (hcalls : ∀ c ∈ pass :: after, c.Steady true ∧ c.Linked connected) :
    let served := run (call machines false) (setup machines s deviceId config)
      (past ++ (before ++ finish :: between ++ [pass]))
    let later := run (call machines false) served after
    later.network.Served (mqttConfigured config) connected ∧
      later.acts.count .mqttAttempt = served.acts.count .mqttAttempt +
        (if mqttConfigured config && !connected then
          after.countP (Call.isDue .mqttReconnect) else 0) ∧
      later.acts.count .telemetryAttempt = served.acts.count .telemetryAttempt +
        (if mqttConfigured config && connected then
          after.countP (Call.isDue .mqttTelemetry) else 0) ∧
      ∀ p : Pass, p.Connects → mqttConfigured config = true → connected = false →
        (call machines false later (.pass .mqttReconnect p)).acts = later.acts ++
          [.mqttAttempt, .subscribe (topicsOf deviceId).topicCommand,
            .publish (topicsOf deviceId).topicState, .mqttSuccess] ∧
        (call machines false later (.pass .mqttReconnect p)).network.mqttRetry = false := by
  intro served later
  have hstart := setup_managed h s deviceId config
  have hserved := managed_run h false hstart (past ++ (before ++ finish :: between ++ [pass]))
  have hlater := managed_run h false hserved after
  have hreached (rest : List Call)
      (hrest : ∀ c ∈ pass :: rest, c.Steady true ∧ c.Linked connected) :
      (run (call machines false) served rest).network.Left true ∧
        (run (call machines false) served rest).network.Served (mqttConfigured config)
          connected := by
    rw [run_behind]
    exact reached_run h (managed_run h false hstart past) (fun _ hc => hc.1)
      (fun n c hleft hc hdue => Network.served_of_isDue hc.1 hc.2 hdue hleft)
      (fun n c hleft hserved hc => Network.served_next hc.1 hc.2 hleft hserved) hfinish hbefore
      hdue hrest
  have hnow := hreached [] fun c hc => hcalls c (by simp at hc; simp [hc])
  have hkeep (n : Network) (c : Call)
      (hn : n.Left true ∧ n.Served (mqttConfigured config) connected)
      (hc : c.Steady true ∧ c.Linked connected) :
      (n.next (mqttConfigured config) c).Left true ∧
        (n.next (mqttConfigured config) c).Served (mqttConfigured config) connected :=
    ⟨Network.left_next hc.1 hn.1, Network.served_next hc.1 hc.2 hn.1 hn.2⟩
  have hrest : ∀ c ∈ after, c.Steady true ∧ c.Linked connected :=
    fun c hc => hcalls c (List.mem_cons_of_mem pass hc)
  refine ⟨(hreached after hcalls).2, ?_, ?_, ?_⟩
  · exact attempts_run h hserved .mqttReconnect rfl _ hkeep
      (fun n c hn hc => (Network.attempts_of_served hc.1 hc.2 hn.1 hn.2).1) hnow hrest
  · exact attempts_run h hserved .mqttTelemetry rfl _ hkeep
      (fun n c hn hc => (Network.attempts_of_served hc.1 hc.2 hn.1 hn.2).2) hnow hrest
  · intro p hp hconfigured hconnected
    obtain ⟨hleft, hretry, -⟩ := hreached after hcalls
    rw [hconfigured, hconnected] at hretry
    exact connects_call h hlater hleft hconfigured hretry hp

/-- A pass in which the library call fails. -/
def failedPass (r : Reads) : Pass := { samplePass r with succeeds := false }

/-- The broker does not answer, and the device keeps trying. -/
theorem mqtt_settles_sample :
    (run (call sampleEntryMachines false)
      (run (call sampleEntryMachines false)
        (setup sampleEntryMachines sampleStart "10A2CCEF49C0" sampleConfig)
        ([] ++ ([] ++ [.finishLoop (sampleReads true false 2) (sampleReads true false 2)] ++
          [.pass .mqttCoordinator (failedPass (sampleReads true false 250))])))
      [.pass .mqttReconnect (failedPass (sampleReads true false 250))]).network.Served
        (mqttConfigured sampleConfig) false :=
  (mqtt_settles sampleEntryMachines_documented sampleStart "10A2CCEF49C0" sampleConfig
    [] [] [] rfl (by simp [Call.Steady, Reads.Steady, sampleReads]) rfl
    (by simp [Call.Steady, Call.Linked, Reads.Steady, failedPass, samplePass, sampleReads])).1

end ProjEsp32.ConnectionManager
