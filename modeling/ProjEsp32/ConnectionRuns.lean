import ProjEsp32.ConnectionManager

/-!
# Runs of the connection manager

In every order of calls the copy of the machine's state is the machine's state, the
services are opened once, the two MQTT tasks exclude each other and the counters count
what has been done. The state of the machine is left only for a reason that the call
has read.
-/

namespace ProjEsp32.ConnectionManager

open CooperativeTask MachineEntries MachineLibrary TransitionRuns
open MqttSettings (MqttConfig mqttConfigured)

/-- The act concerns the radio only. -/
def Act.isWifi : Act → Bool
  | .wifiAttempt => true
  | .wifiSuccess => true
  | .wifiLoss => true
  | _ => false

/-- What is sent goes to a topic of the device. -/
def Act.Addressed (deviceId : String) : Act → Prop
  | .subscribe topic => topic = (topicsOf deviceId).topicCommand
  | .publish topic =>
    topic = (topicsOf deviceId).topicState ∨ topic = (topicsOf deviceId).topicTelemetry
  | _ => True

/-- The machine has run, is copied, and has left its first state. -/
structure Mirrored (machine : Machine AppState) (appState : AppState) : Prop where
  /-- The machine has run. -/
  running : machine.initialized = true
  /-- Its state is the copy. -/
  copied : machine.current = appState
  /-- It has left the state of the boot. -/
  left : appState ≠ .BOOT

/-- The counters of the radio count; an attempt is followed by one success at most. -/
structure WifiCounted (w : WifiRuntime) (acts : List Act) : Prop where
  /-- The attempts are counted. -/
  attempts : w.wifiReconnectAttemptCount = acts.count .wifiAttempt % 2^32
  /-- And so are the successes. -/
  successes : w.wifiReconnectSuccessCount = acts.count .wifiSuccess % 2^32
  /-- And the losses. -/
  losses : w.wifiDisconnectObservedCount = acts.count .wifiLoss % 2^32
  /-- Each success answers an attempt of its own, and so will the one that is pending. -/
  answered : acts.count .wifiSuccess + w.wifiReconnectPending.toNat ≤ acts.count .wifiAttempt

/-- The counters of the MQTT tasks count; each attempt has one success at most. -/
structure MqttCounted (m : MqttRuntime) (acts : List Act) : Prop where
  /-- The attempts to connect are counted. -/
  attempts : m.mqttReconnectAttemptCount = acts.count .mqttAttempt % 2^32
  /-- And so are those that connected. -/
  successes : m.mqttReconnectSuccessCount = acts.count .mqttSuccess % 2^32
  /-- The attempts to publish are counted. -/
  telemetryAttempts : m.mqttTelemetryAttemptCount = acts.count .telemetryAttempt % 2^32
  /-- And so are those that published. -/
  publishes : m.mqttTelemetryPublishCount = acts.count .telemetryPublish % 2^32
  /-- Each success is one of an attempt. -/
  answered : acts.count .mqttSuccess ≤ acts.count .mqttAttempt
  /-- Each publication is one of an attempt. -/
  published : acts.count .telemetryPublish ≤ acts.count .telemetryAttempt

/-- Every task runs forever, and the coordinators always. The two MQTT tasks exclude
each other and need `isOpen`; the radio is not reconnected while the machine is online. -/
structure TasksKept (tasks : Job → Task) (appState : AppState) (isOpen : Bool) : Prop where
  /-- Every task runs forever. -/
  forever : ∀ job, (tasks job).iterations = none ∧ (tasks job).setIterations = none
  /-- The two coordinators are enabled. -/
  coordinating : (tasks .wifiCoordinator).enabled = true ∧ (tasks .mqttCoordinator).enabled = true
  /-- The client is reconnected, or its telemetry is sent. -/
  exclusive : ¬((tasks .mqttReconnect).enabled = true ∧ (tasks .mqttTelemetry).enabled = true)
  /-- One of the two only while the application is online with its services. -/
  allowed : (tasks .mqttReconnect).enabled = true ∨ (tasks .mqttTelemetry).enabled = true →
    isOpen = true
  /-- The radio is reconnected only while the application is not online. -/
  offline : (tasks .wifiReconnect).enabled = true → appState ≠ .ONLINE

/-- The services are opened once, and nothing but the radio is used before that. -/
structure ServicesKept (deviceId : String) (started web : Bool) (topics : Topics)
    (acts : List Act) : Prop where
  /-- The web server is started with the services. -/
  web : web = started
  /-- The topics are those of the device. -/
  topics : started = true → topics = topicsOf deviceId
  /-- The services are started once. -/
  once : acts.count .startServices = started.toNat
  /-- Before that nothing concerns the broker. -/
  quiet : started = false → ∀ act ∈ acts, act.isWifi = true
  /-- What is sent goes to the topics of the device. -/
  addressed : ∀ act ∈ acts, act.Addressed deviceId

/-- The connection manager is in order. -/
structure Managed (deviceId : String) (config : MqttConfig) (d : Device) : Prop where
  /-- The name of the device stays. -/
  identity : d.deviceId = deviceId
  /-- And so do its settings. -/
  settings : d.config = config
  /-- The machine and its copy agree. -/
  mirrored : Mirrored d.machine d.appState
  /-- The tasks are those of the state. -/
  tasks : TasksKept d.tasks d.appState (d.networkServicesStarted && mqttConfigured config)
  /-- The services have been started once, or not yet. -/
  services : ServicesKept deviceId d.networkServicesStarted d.webStarted d.topics d.acts
  /-- The Wi-Fi side is counted. -/
  wifi : WifiCounted d.wifi d.acts
  /-- And so is the MQTT side. -/
  mqtt : MqttCounted d.mqtt d.acts

variable {machines : EntryMachines AppState Event} {testEndpoints : Bool} {d : Device}
variable {deviceId : String} {config : MqttConfig} {acts : List Act} {act : Act}

/-! ### The machine -/

/-- The machine and its copy in another state. -/
def Device.moveTo (state : AppState) (d : Device) : Device :=
  { d with machine := { d.machine with current := state }, appState := state }

/-- Every state is entered by the same function. -/
theorem onEnter_eq (state : AppState) (d : Device) : Device.onEnter state d = d.enter state := by
  cases state <;> rfl

/-- A trigger leads a machine that has run, and its copy, to the next state. -/
theorem trigger_of_running (h : machines.Documented) (hrunning : d.machine.initialized = true)
    (hcopied : d.machine.current = d.appState) (event : Event) :
    d.trigger machines event = d.moveTo (nextState transitions event d.appState) := by
  unfold Device.trigger
  rw [trigger_spec h hrunning, hcopied]
  cases hfirst : firstTransition transitions event d.appState with
  | some transition =>
    simp only [Option.isSome_some, if_true, Device.entered, List.foldl_cons, List.foldl_nil,
      onEnter_eq]
    rfl
  | none =>
    have hnext : nextState transitions event d.appState = d.appState := by
      simp [nextState, hfirst]
    rw [hnext]
    rfl

/-- A triggered event moves to the next state. -/
theorem trigger_eq (h : machines.Documented) (hd : Mirrored d.machine d.appState) (event : Event) :
    d.trigger machines event = d.moveTo (nextState transitions event d.appState) :=
  trigger_of_running h hd.running hd.copied event

/-- A machine that has run runs without effect. -/
theorem runMachine_eq (h : machines.Documented) (hd : Mirrored d.machine d.appState) :
    d.runMachine machines = d := by
  unfold Device.runMachine
  rw [h.again d.machine hd.running]
  rfl

/-- The portal moves the machine only while it connects. -/
theorem portalOpened_eq (h : machines.Documented) (hd : Mirrored d.machine d.appState) :
    d.portalOpened machines =
      if d.appState = .WIFI_CONNECTING then d.moveTo .CONFIG_PORTAL else d := by
  unfold Device.portalOpened
  split
  · rename_i hconnecting
    rw [trigger_eq h hd, hconnecting]
    rfl
  · rfl

/-! ### What is kept -/

/-- A state other than the first one can be entered by a device whose radio is not
reconnected, and any such state but `ONLINE` by every device. -/
theorem Managed.moveTo (hd : Managed deviceId config d) {state : AppState} (hleft : state ≠ .BOOT)
    (hoffline : (d.tasks .wifiReconnect).enabled = true → state ≠ .ONLINE) :
    Managed deviceId config (d.moveTo state) :=
  { hd with
    mirrored := ⟨hd.mirrored.running, rfl, hleft⟩
    tasks := { hd.tasks with offline := hoffline } }

/-- Other variables of the radio that count what has been done. -/
theorem Managed.setWifi (hd : Managed deviceId config d) {w : WifiRuntime}
    (hcounted : WifiCounted w d.acts) : Managed deviceId config { d with wifi := w } :=
  { hd with wifi := hcounted }

/-- Other variables of the MQTT side that count what has been done. -/
theorem Managed.setMqtt (hd : Managed deviceId config d) {m : MqttRuntime}
    (hcounted : MqttCounted m d.acts) : Managed deviceId config { d with mqtt := m } :=
  { hd with mqtt := hcounted }

/-- An act of one side leaves the counters of the other. -/
theorem WifiCounted.append {w : WifiRuntime} (h : WifiCounted w acts) (hact : act.isWifi = false) :
    WifiCounted w (acts ++ [act]) := by
  have hcount (other : Act) (hother : other.isWifi = true) :
      (acts ++ [act]).count other = acts.count other := by
    have hne : act ≠ other := fun heq => by rw [heq, hother] at hact; cases hact
    rw [List.count_append, List.count_singleton, beq_eq_false_iff_ne.mpr hne]
    rfl
  constructor
  · rw [hcount _ rfl]
    exact h.attempts
  · rw [hcount _ rfl]
    exact h.successes
  · rw [hcount _ rfl]
    exact h.losses
  · rw [hcount _ rfl, hcount _ rfl]
    exact h.answered

/-- The act is one that the MQTT side counts. -/
def Act.isMqtt : Act → Bool
  | .mqttAttempt => true
  | .mqttSuccess => true
  | .telemetryAttempt => true
  | .telemetryPublish => true
  | _ => false

/-- An act that is not one of MQTT leaves its counters right. -/
theorem MqttCounted.append {m : MqttRuntime} (h : MqttCounted m acts) (hact : act.isMqtt = false) :
    MqttCounted m (acts ++ [act]) := by
  have hcount (other : Act) (hother : other.isMqtt = true) :
      (acts ++ [act]).count other = acts.count other := by
    have hne : act ≠ other := fun heq => by rw [heq, hother] at hact; cases hact
    rw [List.count_append, List.count_singleton, beq_eq_false_iff_ne.mpr hne]
    rfl
  constructor
  · rw [hcount _ rfl]
    exact h.attempts
  · rw [hcount _ rfl]
    exact h.successes
  · rw [hcount _ rfl]
    exact h.telemetryAttempts
  · rw [hcount _ rfl]
    exact h.publishes
  · rw [hcount _ rfl, hcount _ rfl]
    exact h.answered
  · rw [hcount _ rfl, hcount _ rfl]
    exact h.published

/-- An act of the radio is possible at any time, others when the services are open;
what is sent is addressed. -/
theorem ServicesKept.append {started web : Bool} {topics : Topics}
    (h : ServicesKept deviceId started web topics acts) (hstart : act ≠ .startServices)
    (hopen : act.isWifi = true ∨ started = true) (haddressed : act.Addressed deviceId) :
    ServicesKept deviceId started web topics (acts ++ [act]) where
  web := h.web
  topics := h.topics
  once := by
    rw [List.count_append, List.count_singleton, beq_eq_false_iff_ne.mpr hstart]
    exact h.once
  quiet := by
    intro hclosed
    have hwifi : act.isWifi = true := by
      rcases hopen with hwifi | hopen
      · exact hwifi
      · rw [hopen] at hclosed
        cases hclosed
    intro other hother
    rcases List.mem_append.mp hother with hold | hnew
    · exact h.quiet hclosed other hold
    · rw [List.mem_singleton.mp hnew]
      exact hwifi
  addressed := by
    intro other hother
    rcases List.mem_append.mp hother with hold | hnew
    · exact h.addressed other hold
    · rw [List.mem_singleton.mp hnew]
      exact haddressed

/-- An act of the radio, together with the variables that count it. -/
theorem Managed.noteWifi (hd : Managed deviceId config d) {w : WifiRuntime} (act : Act)
    (hact : act.isWifi = true) (hcounted : WifiCounted w (d.acts ++ [act])) :
    Managed deviceId config ({ d with wifi := w }.note act) :=
  { hd with
    services := hd.services.append (fun heq => by rw [heq] at hact; cases hact) (.inl hact)
      (by cases act <;> first | exact trivial | cases hact)
    wifi := hcounted
    mqtt := hd.mqtt.append (by cases act <;> first | rfl | cases hact) }

/-- An act of the MQTT side, together with the variables that count it. -/
theorem Managed.noteMqtt (hd : Managed deviceId config d) {m : MqttRuntime}
    (hact : act.isMqtt = true) (hopen : d.networkServicesStarted = true)
    (hcounted : MqttCounted m (d.acts ++ [act])) :
    Managed deviceId config ({ d with mqtt := m }.note act) :=
  { hd with
    services := hd.services.append (fun heq => by rw [heq] at hact; cases hact) (.inr hopen)
      (by cases act <;> first | exact trivial | cases hact)
    wifi := hd.wifi.append (by cases act <;> first | rfl | cases hact)
    mqtt := hcounted }

/-- What is sent to a topic of the device is counted by nobody. -/
theorem Managed.noteSent (hd : Managed deviceId config d) (hmqtt : act.isMqtt = false)
    (hwifi : act.isWifi = false) (hstart : act ≠ .startServices)
    (hopen : d.networkServicesStarted = true) (haddressed : act.Addressed deviceId) :
    Managed deviceId config (d.note act) :=
  { hd with
    services := hd.services.append hstart (.inr hopen) haddressed
    wifi := hd.wifi.append hwifi
    mqtt := hd.mqtt.append hmqtt }

/-! ### Tasks -/

/-- An operation on a task changes no other task. -/
@[simp] theorem onTask_tasks (job other : Job) (operation : Task → Task) (d : Device) :
    (d.onTask job operation).tasks other =
      if other = job then operation (d.tasks job) else d.tasks other := by
  simp only [Device.onTask, Function.update_apply]

/-- Disabling a task that is disabled changes nothing. -/
theorem disableIfEnabled_eq (job : Job) (d : Device) : d.disableIfEnabled job = d.disable job := by
  unfold Device.disableIfEnabled Device.isEnabled
  cases henabled : (d.tasks job).enabled with
  | true => rfl
  | false =>
    have hsame : (d.tasks job).disable = d.tasks job := by rw [Task.disable, ← henabled]
    simp only [Bool.false_eq_true, if_false, Device.disable, Device.onTask, hsame,
      Function.update_eq_self]

/-- Tasks stay in order when none of them is enabled anew. -/
theorem TasksKept.mono {tasks others : Job → Task} {appState : AppState} {isOpen : Bool}
    (h : TasksKept tasks appState isOpen)
    (hforever : ∀ job, (others job).iterations = none ∧ (others job).setIterations = none)
    (hcoordinating : (others .wifiCoordinator).enabled = true ∧
      (others .mqttCoordinator).enabled = true)
    (hle : ∀ job, (others job).enabled = true → (tasks job).enabled = true) :
    TasksKept others appState isOpen where
  forever := hforever
  coordinating := hcoordinating
  exclusive := fun hboth => h.exclusive ⟨hle _ hboth.1, hle _ hboth.2⟩
  allowed := fun heither => h.allowed (heither.imp (hle _) (hle _))
  offline := fun henabled => h.offline (hle _ henabled)

/-- The tasks are still those that run forever. -/
theorem forever_onTask {operation : Task → Task} (job : Job)
    (hd : ∀ job, (d.tasks job).iterations = none ∧ (d.tasks job).setIterations = none)
    (hoperation : (operation (d.tasks job)).iterations = none ∧
      (operation (d.tasks job)).setIterations = none) (other : Job) :
    ((d.onTask job operation).tasks other).iterations = none ∧
      ((d.onTask job operation).tasks other).setIterations = none := by
  rw [onTask_tasks]
  split
  · exact hoperation
  · exact hd other

/-- Any task but a coordinator can be disabled. -/
theorem Managed.disable (hd : Managed deviceId config d) {job : Job}
    (hwifi : job ≠ .wifiCoordinator) (hmqtt : job ≠ .mqttCoordinator) :
    Managed deviceId config (d.disable job) := by
  have hforever := hd.tasks.forever
  have htasks : TasksKept (d.disable job).tasks d.appState
      (d.networkServicesStarted && mqttConfigured config) := by
    refine hd.tasks.mono (forever_onTask job hforever (hforever job)) ⟨?_, ?_⟩ ?_
    · rw [Device.disable, onTask_tasks, if_neg hwifi.symm]
      exact hd.tasks.coordinating.1
    · rw [Device.disable, onTask_tasks, if_neg hmqtt.symm]
      exact hd.tasks.coordinating.2
    · intro other henabled
      rw [Device.disable, onTask_tasks] at henabled
      split at henabled
      · cases henabled
      · exact henabled
  exact { hd with tasks := htasks }

/-- The task of the radio can be enabled while the machine is not online. -/
theorem Managed.enableWifi (hd : Managed deviceId config d) (hoffline : d.appState ≠ .ONLINE) :
    Managed deviceId config (d.enable .wifiReconnect) := by
  have hforever := hd.tasks.forever
  have hother (job : Job) (hjob : job ≠ .wifiReconnect) :
      (d.enable .wifiReconnect).tasks job = d.tasks job := by
    rw [Device.enable, onTask_tasks, if_neg hjob]
  have htasks : TasksKept (d.enable .wifiReconnect).tasks d.appState
      (d.networkServicesStarted && mqttConfigured config) := by
    constructor
    · exact forever_onTask _ hforever (hforever _)
    · rw [hother _ (by decide), hother _ (by decide)]
      exact hd.tasks.coordinating
    · rw [hother _ (by decide), hother _ (by decide)]
      exact hd.tasks.exclusive
    · rw [hother _ (by decide), hother _ (by decide)]
      exact hd.tasks.allowed
    · exact fun _ => hoffline
  exact { hd with tasks := htasks }

/-- One of the two MQTT tasks, and the other one. -/
inductive Job.Exclude : Job → Job → Prop where
  | reconnect : Job.Exclude .mqttReconnect .mqttTelemetry
  | telemetry : Job.Exclude .mqttTelemetry .mqttReconnect

/-- One of the two MQTT tasks can be started when the other one is disabled, the
services are open and the settings are there. -/
theorem Managed.startMqtt (hd : Managed deviceId config d) {job other : Job}
    (hexclude : job.Exclude other) {operation : Task → Task}
    (hoperation : (operation (d.tasks job)).iterations = none ∧
      (operation (d.tasks job)).setIterations = none)
    (hother : (d.tasks other).enabled = false) (hopen : d.networkServicesStarted = true)
    (hconfigured : mqttConfigured config = true) :
    Managed deviceId config (d.onTask job operation) := by
  have hforever := hd.tasks.forever
  have hkept (task : Job) (htask : task ≠ job) :
      (d.onTask job operation).tasks task = d.tasks task := by
    rw [onTask_tasks, if_neg htask]
  have htasks : TasksKept (d.onTask job operation).tasks d.appState
      (d.networkServicesStarted && mqttConfigured config) := by
    constructor
    · exact forever_onTask _ hforever hoperation
    · rw [hkept _ (by cases hexclude <;> decide), hkept _ (by cases hexclude <;> decide)]
      exact hd.tasks.coordinating
    · cases hexclude with
      | reconnect =>
        rw [hkept .mqttTelemetry (by decide), hother]
        exact fun hboth => Bool.false_ne_true hboth.2
      | telemetry =>
        rw [hkept .mqttReconnect (by decide), hother]
        exact fun hboth => Bool.false_ne_true hboth.1
    · intro _
      rw [hopen, hconfigured]
      rfl
    · rw [hkept _ (by cases hexclude <;> decide)]
      exact hd.tasks.offline
  exact { hd with tasks := htasks }

/-- A pass over a task runs its callback when the task is enabled and due. -/
theorem passTask_eq (hd : Managed deviceId config d) (job : Job) (p : Pass) :
    passTask machines testEndpoints job p d =
      if d.isEnabled job && p.due then callback machines testEndpoints p job d else d := by
  unfold passTask
  rw [Task.pass_of_forever (hd.tasks.forever job).1]
  simp only [Function.update_eq_self]
  rfl

/-! ### The calls -/

/-- A counter of 32 bits counts modulo `2^32`. -/
theorem increment_mod (n : ℕ) : increment (n % 2^32) = (n + 1) % 2^32 :=
  Nat.mod_add_mod n (2^32) 1

/-- Counting one act more. -/
theorem count_concat_self (acts : List Act) (act : Act) :
    (acts ++ [act]).count act = acts.count act + 1 := by
  rw [List.count_append, List.count_singleton_self]

/-- An act of another kind is not counted. -/
theorem count_concat_ne (acts : List Act) {act other : Act} (h : act ≠ other) :
    (acts ++ [act]).count other = acts.count other := by
  rw [List.count_append, List.count_singleton, beq_eq_false_iff_ne.mpr h]
  rfl

/-- The radio is not reconnected, or one attempt more is counted and pending. -/
theorem Managed.runWifiReconnectTask (hd : Managed deviceId config d) (r again : Reads)
    (started : Bool) :
    Managed deviceId config (d.runWifiReconnectTask testEndpoints r again started) := by
  have hcounted := hd.wifi
  unfold Device.runWifiReconnectTask
  split
  · have hresult : Managed deviceId config { d with
        wifi := { d.wifi with
          wifiLastReconnectResult :=
            if again.portalActive then "portal_active"
            else if again.wifiUp then "already_connected" else "suppressed" } } :=
      hd.setWifi { hcounted with }
    exact hresult.disable (by decide) (by decide)
  · refine hd.noteWifi .wifiAttempt rfl ⟨?_, ?_, ?_, ?_⟩
    · rw [count_concat_self, ← increment_mod, ← hcounted.attempts]
    · rw [count_concat_ne _ (by decide)]
      exact hcounted.successes
    · rw [count_concat_ne _ (by decide)]
      exact hcounted.losses
    · have hanswered := hcounted.answered
      rw [count_concat_self, count_concat_ne _ (by decide), Bool.toNat_true]
      omega

/-- A device that has noted that the radio is up. -/
def Device.seenUp (r : Reads) (d : Device) : Device :=
  { d.noteWifiUp r with
    wifi := { (d.noteWifiUp r).wifi with
      wifiReconnectPending := false, wifiLastObservedConnected := true } }.disable .wifiReconnect

/-- A device that has noted that the radio is down. -/
def Device.seenDown (r : Reads) (d : Device) : Device :=
  { d.noteWifiDown r with
    wifi := { (d.noteWifiDown r).wifi with wifiLastObservedConnected := false } }

/-- Noting the connection leaves the state. -/
@[simp] theorem seenUp_appState (r : Reads) (d : Device) :
    (d.seenUp r).appState = d.appState := by
  unfold Device.seenUp Device.noteWifiUp
  split <;> rfl

/-- Noting the loss leaves the state. -/
@[simp] theorem seenDown_appState (r : Reads) (d : Device) :
    (d.seenDown r).appState = d.appState := by
  unfold Device.seenDown Device.noteWifiDown
  split <;> rfl

/-- A radio that is seen up is noted: an attempt that was pending has succeeded. -/
theorem Managed.seenUp (hd : Managed deviceId config d) (r : Reads) :
    Managed deviceId config (d.seenUp r) := by
  have hcounted := hd.wifi
  have hanswered := hcounted.answered
  refine Managed.disable ?_ (by decide) (by decide)
  unfold Device.noteWifiUp
  split
  · rename_i hpending
    have hpending : d.wifi.wifiReconnectPending = true := by
      rw [Bool.and_eq_true] at hpending
      exact hpending.2
    rw [hpending, Bool.toNat_true] at hanswered
    refine hd.noteWifi .wifiSuccess rfl ⟨?_, ?_, ?_, ?_⟩
    · rw [count_concat_ne _ (by decide)]
      exact hcounted.attempts
    · rw [count_concat_self, ← increment_mod, ← hcounted.successes]
      rfl
    · rw [count_concat_ne _ (by decide)]
      exact hcounted.losses
    · rw [count_concat_self, count_concat_ne _ (by decide), Bool.toNat_false]
      omega
  · refine hd.setWifi ⟨hcounted.attempts, hcounted.successes, hcounted.losses, ?_⟩
    rw [Bool.toNat_false]
    omega

/-- A radio that is seen down is noted: it is lost when it was up. -/
theorem Managed.seenDown (hd : Managed deviceId config d) (r : Reads) :
    Managed deviceId config (d.seenDown r) := by
  have hcounted := hd.wifi
  unfold Device.seenDown Device.noteWifiDown
  split
  · refine hd.noteWifi .wifiLoss rfl ⟨?_, ?_, ?_, ?_⟩
    · rw [count_concat_ne _ (by decide)]
      exact hcounted.attempts
    · rw [count_concat_ne _ (by decide)]
      exact hcounted.successes
    · rw [count_concat_self, ← increment_mod, ← hcounted.losses]
      rfl
    · rw [count_concat_ne _ (by decide), count_concat_ne _ (by decide)]
      exact hcounted.answered
  · exact hd.setWifi { hcounted with }

/-- With the portal open nothing is pending. -/
theorem Managed.coordinatePortal (hd : Managed deviceId config d) (r : Reads) :
    Managed deviceId config (d.coordinatePortal r) := by
  have hcounted := hd.wifi
  have hanswered := hcounted.answered
  have hdisabled : Managed deviceId config (d.disable .wifiReconnect) :=
    hd.disable (by decide) (by decide)
  unfold Device.coordinatePortal
  rw [disableIfEnabled_eq]
  refine hdisabled.setWifi ⟨hcounted.attempts, hcounted.successes, hcounted.losses, ?_⟩
  rw [Bool.toNat_false]
  exact Nat.le_trans (Nat.le_add_right _ _) hanswered

/-- A trigger that is left out where it does nothing is a trigger. -/
theorem guarded_trigger (h : machines.Documented) (hd : Mirrored d.machine d.appState)
    (event : Event) {guard : Bool}
    (hguard : guard = false → nextState transitions event d.appState = d.appState) :
    (if guard then d.trigger machines event else d) =
      d.moveTo (nextState transitions event d.appState) := by
  cases guard with
  | true => exact trigger_eq h hd event
  | false =>
    have hcopied : { d.machine with current := d.appState } = d.machine := by rw [← hd.copied]
    rw [hguard rfl, if_neg Bool.false_ne_true, Device.moveTo, hcopied]

/-- A state that the guard leaves out would ignore the connection. -/
theorem up_ignored {state : AppState} (hleft : state ≠ .BOOT)
    (hguard : (state = .OFFLINE || state = .WIFI_CONNECTING) = false) :
    nextState transitions .EVT_WIFI_UP state = state := by
  cases state <;> first | rfl | exact absurd rfl hleft | cases hguard

/-- A state that the guard leaves out would ignore the loss. -/
theorem down_ignored {state : AppState} (hleft : state ≠ .BOOT)
    (hguard : (state = .WIFI_CONNECTING || state = .ONLINE) = false) :
    nextState transitions .EVT_WIFI_DOWN state = state := by
  cases state <;> first | rfl | exact absurd rfl hleft | cases hguard

/-- The coordinator that reads the radio up notes it and triggers the machine. -/
theorem coordinateWifiUp_eq (h : machines.Documented) (hd : Managed deviceId config d) (r : Reads) :
    d.coordinateWifiUp machines r =
      (d.seenUp r).moveTo (nextState transitions .EVT_WIFI_UP d.appState) := by
  have hseen := hd.seenUp r
  have htrigger := guarded_trigger h hseen.mirrored .EVT_WIFI_UP
    (up_ignored hseen.mirrored.left)
  rw [← seenUp_appState r d]
  unfold Device.coordinateWifiUp
  simp only [disableIfEnabled_eq]
  exact htrigger

/-- The reconnect task of a radio that is down: on when it is allowed. -/
def Device.switchReconnect (testEndpoints : Bool) (r : Reads) (d : Device) : Device :=
  if d.wifiReconnectAllowedNow testEndpoints r.now then
    if d.isEnabled .wifiReconnect then d else d.enable .wifiReconnect
  else
    { d.disable .wifiReconnect with
      wifi := { d.wifi with wifiLastReconnectResult := "suppressed" } }

/-- What the coordinator does with the reconnect task, as one function. -/
theorem switchReconnect_eq (r : Reads) (d : Device) :
    (if !d.wifiReconnectAllowedNow testEndpoints r.now then
      { d.disableIfEnabled .wifiReconnect with
        wifi := { (d.disableIfEnabled .wifiReconnect).wifi with
          wifiLastReconnectResult := "suppressed" } }
    else if !d.isEnabled .wifiReconnect then d.enable .wifiReconnect
    else d) = d.switchReconnect testEndpoints r := by
  rw [disableIfEnabled_eq]
  unfold Device.switchReconnect
  cases hallowed : d.wifiReconnectAllowedNow testEndpoints r.now with
  | false => rfl
  | true =>
    cases henabled : d.isEnabled .wifiReconnect with
    | false => rfl
    | true => rfl

/-- The coordinator that reads the radio down notes it, triggers the machine and
switches the reconnect task. -/
theorem coordinateWifiDown_eq (testEndpoints : Bool) (h : machines.Documented)
    (hd : Managed deviceId config d) (r : Reads) :
    d.coordinateWifiDown machines testEndpoints r =
      ((d.seenDown r).moveTo (nextState transitions .EVT_WIFI_DOWN d.appState)).switchReconnect
        testEndpoints r := by
  have hseen := hd.seenDown r
  have htrigger := guarded_trigger h hseen.mirrored .EVT_WIFI_DOWN
    (down_ignored hseen.mirrored.left)
  rw [← seenDown_appState r d, ← htrigger]
  exact switchReconnect_eq r _

/-- The radio is down: the reconnect task may be switched on. -/
theorem Managed.switchReconnect (hd : Managed deviceId config d) (r : Reads)
    (hoffline : d.appState ≠ .ONLINE) :
    Managed deviceId config (d.switchReconnect testEndpoints r) := by
  have hcounted := hd.wifi
  unfold Device.switchReconnect
  split
  · split
    · exact hd
    · exact hd.enableWifi hoffline
  · have hdisabled : Managed deviceId config (d.disable .wifiReconnect) :=
      hd.disable (by decide) (by decide)
    exact hdisabled.setWifi { hcounted with }

/-- The state after a change of the radio is never the first one. -/
theorem nextState_up_ne {state : AppState} (hleft : state ≠ .BOOT) :
    nextState transitions .EVT_WIFI_UP state ≠ .BOOT := by
  cases state <;> first | decide | exact absurd rfl hleft

/-- The loss of Wi-Fi leads neither to `BOOT` nor to `ONLINE`. -/
theorem nextState_down_ne {state : AppState} (hleft : state ≠ .BOOT) :
    nextState transitions .EVT_WIFI_DOWN state ≠ .BOOT ∧
      nextState transitions .EVT_WIFI_DOWN state ≠ .ONLINE := by
  cases state <;> first | decide | exact absurd rfl hleft

/-- The Wi-Fi coordinator keeps the connections managed. -/
theorem Managed.coordinateWifiTasks (h : machines.Documented) (hd : Managed deviceId config d)
    (r : Reads) :
    Managed deviceId config (d.coordinateWifiTasks machines testEndpoints r) := by
  have hleft := hd.mirrored.left
  unfold Device.coordinateWifiTasks
  split
  · exact hd.coordinatePortal r
  · split
    · rw [coordinateWifiUp_eq h hd]
      refine (hd.seenUp r).moveTo (nextState_up_ne hleft) ?_
      intro henabled
      simp [Device.seenUp, Device.disable] at henabled
    · rw [coordinateWifiDown_eq testEndpoints h hd]
      have hnext := nextState_down_ne hleft
      have hmoved : Managed deviceId config ((d.seenDown r).moveTo
          (nextState transitions .EVT_WIFI_DOWN d.appState)) :=
        (hd.seenDown r).moveTo hnext.1 fun _ => hnext.2
      exact hmoved.switchReconnect r hnext.2

/-- A connection to the broker subscribes and publishes under the topics of the device. -/
theorem Managed.connectMqtt (hd : Managed deviceId config d)
    (hopen : d.networkServicesStarted = true) (r : Reads) (connects : Bool) :
    Managed deviceId config (d.connectMqtt r connects).1 := by
  have htopics := hd.services.topics hopen
  unfold Device.connectMqtt
  split
  · exact hd
  split
  · exact hd
  split
  · exact hd
  have hcommand : d.topics.topicCommand = (topicsOf deviceId).topicCommand := by rw [htopics]
  have hstate : d.topics.topicState = (topicsOf deviceId).topicState := by rw [htopics]
  have hsubscribed : Managed deviceId config (d.note (.subscribe d.topics.topicCommand)) :=
    hd.noteSent rfl rfl (by simp) hopen hcommand
  exact hsubscribed.noteSent rfl rfl (by simp) hopen (.inl hstate)

/-- A connection is not counted by itself, and the services stay open. -/
theorem connectMqtt_counts (r : Reads) (connects : Bool) (d : Device) {other : Act}
    (hother : other.isMqtt = true) :
    (d.connectMqtt r connects).1.acts.count other = d.acts.count other ∧
      (d.connectMqtt r connects).1.networkServicesStarted = d.networkServicesStarted := by
  unfold Device.connectMqtt
  split
  · exact ⟨rfl, rfl⟩
  split
  · exact ⟨rfl, rfl⟩
  split
  · exact ⟨rfl, rfl⟩
  have hsubscribe : Act.subscribe d.topics.topicCommand ≠ other := by
    rintro rfl
    cases hother
  have hpublish : Act.publish d.topics.topicState ≠ other := by
    rintro rfl
    cases hother
  refine ⟨?_, rfl⟩
  simp only [Device.note]
  rw [count_concat_ne _ hpublish, count_concat_ne _ hsubscribe]

/-- One success more is counted when an attempt has been counted for it. -/
theorem Managed.noteSuccess (hd : Managed deviceId config d)
    (hopen : d.networkServicesStarted = true) (now : ℕ)
    (hattempted : d.acts.count .mqttSuccess < d.acts.count .mqttAttempt) :
    Managed deviceId config ({ d with
      mqtt := { d.mqtt with
        mqttReconnectSuccessCount := increment d.mqtt.mqttReconnectSuccessCount
        mqttLastReconnectSuccessMs := now
        mqttLastReconnectResult := "connected" } }.note .mqttSuccess) := by
  have hcounted := hd.mqtt
  refine hd.noteMqtt rfl hopen ⟨?_, ?_, ?_, ?_, ?_, ?_⟩
  · rw [count_concat_ne _ (by decide)]
    exact hcounted.attempts
  · rw [count_concat_self, ← increment_mod, ← hcounted.successes]
  · rw [count_concat_ne _ (by decide)]
    exact hcounted.telemetryAttempts
  · rw [count_concat_ne _ (by decide)]
    exact hcounted.publishes
  · rw [count_concat_self, count_concat_ne _ (by decide)]
    exact hattempted
  · rw [count_concat_ne _ (by decide), count_concat_ne _ (by decide)]
    exact hcounted.published

/-- A device that has counted one attempt more. -/
def Device.attempted (r : Reads) (d : Device) : Device :=
  { d with
    mqtt := { d.mqtt with
      mqttReconnectAttemptCount := increment d.mqtt.mqttReconnectAttemptCount
      mqttLastReconnectAttemptMs := r.now % 2^32 } }.note .mqttAttempt

/-- An attempt to connect is counted before its success. -/
theorem Managed.attempted (hd : Managed deviceId config d)
    (hopen : d.networkServicesStarted = true) (r : Reads) :
    Managed deviceId config (d.attempted r) ∧
      (d.attempted r).acts.count .mqttSuccess < (d.attempted r).acts.count .mqttAttempt := by
  have hcounted := hd.mqtt
  have hanswered := hcounted.answered
  have hattempts : (d.attempted r).acts.count .mqttAttempt = d.acts.count .mqttAttempt + 1 :=
    count_concat_self _ _
  have hsuccesses : (d.attempted r).acts.count .mqttSuccess = d.acts.count .mqttSuccess :=
    count_concat_ne _ (by decide)
  refine ⟨hd.noteMqtt rfl hopen ⟨?_, ?_, ?_, ?_, ?_, ?_⟩, by omega⟩
  · rw [count_concat_self, ← increment_mod, ← hcounted.attempts]
  · rw [count_concat_ne _ (by decide)]
    exact hcounted.successes
  · rw [count_concat_ne _ (by decide)]
    exact hcounted.telemetryAttempts
  · rw [count_concat_ne _ (by decide)]
    exact hcounted.publishes
  · rw [count_concat_self, count_concat_ne _ (by decide)]
    omega
  · rw [count_concat_ne _ (by decide), count_concat_ne _ (by decide)]
    exact hcounted.published

/-- The broker is not connected, or one attempt more is counted, and its success. -/
theorem Managed.runMqttReconnectTask (hd : Managed deviceId config d) (r again : Reads)
    (connects : Bool) :
    Managed deviceId config (d.runMqttReconnectTask testEndpoints r again connects) := by
  have hcounted := hd.mqtt
  unfold Device.runMqttReconnectTask
  split
  · have hresult : Managed deviceId config
        { d with mqtt := { d.mqtt with mqttLastReconnectResult := "not_eligible" } } :=
      hd.setMqtt { hcounted with }
    exact hresult.disable (by decide) (by decide)
  rename_i heligible
  split
  · have hresult : Managed deviceId config
        { d with mqtt := { d.mqtt with mqttLastReconnectResult := "already_connected" } } :=
      hd.setMqtt { hcounted with }
    exact hresult.disable (by decide) (by decide)
  have hopen : d.networkServicesStarted = true := by
    cases hstarted : d.networkServicesStarted with
    | true => rfl
    | false => simp [hstarted] at heligible
  obtain ⟨hattempt, hless⟩ := hd.attempted hopen r
  have hconnected := hattempt.connectMqtt hopen again connects
  obtain ⟨hsuccesses, hstill⟩ := connectMqtt_counts again connects (d.attempted r)
    (show Act.isMqtt .mqttSuccess = true from rfl)
  obtain ⟨hattempts, -⟩ := connectMqtt_counts again connects (d.attempted r)
    (show Act.isMqtt .mqttAttempt = true from rfl)
  change Managed deviceId config (if ((d.attempted r).connectMqtt again connects).2 then _ else _)
  split
  · refine (hconnected.noteSuccess (hstill.trans hopen) _ ?_).disable (by decide) (by decide)
    rw [hsuccesses, hattempts]
    exact hless
  · exact hconnected.setMqtt { hconnected.mqtt with }

/-- A device that has counted one telemetry attempt more and sends it. -/
def Device.sending (r : Reads) (d : Device) : Device :=
  ({ d with
    mqtt := { d.mqtt with
      mqttTelemetryAttemptCount := increment d.mqtt.mqttTelemetryAttemptCount
      mqttLastTelemetryAttemptMs := r.now % 2^32 } }.note .telemetryAttempt).note
        (.publish d.topics.topicTelemetry)

/-- An attempt to publish is counted before its success. -/
theorem Managed.sending (hd : Managed deviceId config d)
    (hopen : d.networkServicesStarted = true) (r : Reads) :
    Managed deviceId config (d.sending r) ∧
      (d.sending r).acts.count .telemetryPublish < (d.sending r).acts.count .telemetryAttempt := by
  have hcounted := hd.mqtt
  have hpublished := hcounted.published
  have hattempt : Managed deviceId config ({ d with
      mqtt := { d.mqtt with
        mqttTelemetryAttemptCount := increment d.mqtt.mqttTelemetryAttemptCount
        mqttLastTelemetryAttemptMs := r.now % 2^32 } }.note .telemetryAttempt) := by
    refine hd.noteMqtt rfl hopen ⟨?_, ?_, ?_, ?_, ?_, ?_⟩
    · rw [count_concat_ne _ (by decide)]
      exact hcounted.attempts
    · rw [count_concat_ne _ (by decide)]
      exact hcounted.successes
    · rw [count_concat_self, ← increment_mod, ← hcounted.telemetryAttempts]
    · rw [count_concat_ne _ (by decide)]
      exact hcounted.publishes
    · rw [count_concat_ne _ (by decide), count_concat_ne _ (by decide)]
      exact hcounted.answered
    · rw [count_concat_self, count_concat_ne _ (by decide)]
      omega
  have htopic : d.topics.topicTelemetry = (topicsOf deviceId).topicTelemetry := by
    rw [hd.services.topics hopen]
  have hne (other : Act) (hother : other.isMqtt = true) :
      Act.publish d.topics.topicTelemetry ≠ other := by
    rintro rfl
    cases hother
  have hattempts : (d.sending r).acts.count .telemetryAttempt =
      d.acts.count .telemetryAttempt + 1 :=
    (count_concat_ne _ (hne _ rfl)).trans (count_concat_self _ _)
  have hpublishes : (d.sending r).acts.count .telemetryPublish = d.acts.count .telemetryPublish :=
    (count_concat_ne _ (hne _ rfl)).trans (count_concat_ne _ (by decide))
  exact ⟨hattempt.noteSent rfl rfl (by simp) hopen (.inr htopic), by omega⟩

/-- Telemetry is not sent, or one attempt more is counted, and its success. -/
theorem Managed.runMqttTelemetryTask (hd : Managed deviceId config d)
    (hopen : d.networkServicesStarted = true) (r again : Reads) (published : Bool) :
    Managed deviceId config (d.runMqttTelemetryTask r again published) := by
  have hcounted := hd.mqtt
  unfold Device.runMqttTelemetryTask
  split
  · have hresult : Managed deviceId config
        { d with mqtt := { d.mqtt with mqttLastTelemetryResult := "not_connected" } } :=
      hd.setMqtt { hcounted with }
    exact hresult.disable (by decide) (by decide)
  obtain ⟨hsending, hless⟩ := hd.sending hopen r
  have hcount := hsending.mqtt
  change Managed deviceId config (if published then _ else _)
  split
  · refine hsending.noteMqtt rfl hopen ⟨?_, ?_, ?_, ?_, ?_, ?_⟩
    · rw [count_concat_ne _ (by decide)]
      exact hcount.attempts
    · rw [count_concat_ne _ (by decide)]
      exact hcount.successes
    · rw [count_concat_ne _ (by decide)]
      exact hcount.telemetryAttempts
    · rw [count_concat_self, ← increment_mod, ← hcount.publishes]
      rfl
    · rw [count_concat_ne _ (by decide), count_concat_ne _ (by decide)]
      exact hcount.answered
    · rw [count_concat_self, count_concat_ne _ (by decide)]
      exact hless
  · exact hsending.setMqtt { hcount with }

/-- A disabled task stays so when another one is disabled. -/
theorem disable_enabled (job other : Job) (d : Device) :
    ((d.disable job).tasks other).enabled = (!decide (other = job) && (d.tasks other).enabled) := by
  rw [Device.disable, onTask_tasks]
  by_cases hsame : other = job
  · simp [hsame]
  · simp [hsame]

/-- The coordinator of the MQTT tasks switches on one of them at most. -/
theorem Managed.coordinateMqttTasks (hd : Managed deviceId config d) (r : Reads) :
    Managed deviceId config (d.coordinateMqttTasks testEndpoints r) := by
  have hforever := hd.tasks.forever
  have hreconnect : Managed deviceId config (d.disable .mqttReconnect) :=
    hd.disable (by decide) (by decide)
  have htelemetry : Managed deviceId config (d.disable .mqttTelemetry) :=
    hd.disable (by decide) (by decide)
  unfold Device.coordinateMqttTasks
  simp only [disableIfEnabled_eq]
  split
  · exact hreconnect.disable (by decide) (by decide)
  rename_i heligible
  simp only [Bool.not_eq_true', Bool.and_eq_false_imp, Bool.and_eq_true, not_forall,
    Bool.not_eq_false, exists_prop] at heligible
  obtain ⟨⟨⟨hopen, -⟩, -⟩, hconfigured⟩ := heligible
  rw [hd.settings] at hconfigured
  split
  · split
    · refine hreconnect.startMqtt .telemetry ?_ ?_ hopen hconfigured
      · exact ⟨(hreconnect.tasks.forever _).2, (hreconnect.tasks.forever _).2⟩
      · rw [disable_enabled]
        rfl
    · exact hreconnect
  split
  · have hboth : Managed deviceId config ((d.disable .mqttTelemetry).disable .mqttReconnect) :=
      htelemetry.disable (by decide) (by decide)
    exact hboth.setMqtt { hboth.mqtt with }
  split
  · refine htelemetry.startMqtt .reconnect (htelemetry.tasks.forever _) ?_ hopen hconfigured
    rw [disable_enabled]
    rfl
  · exact htelemetry

/-- The services are opened once. -/
theorem Managed.startNetworkServices (hd : Managed deviceId config d) (r : Reads) :
    Managed deviceId config (d.startNetworkServices r) := by
  unfold Device.startNetworkServices
  split
  · exact hd
  rename_i hclosed
  have hclosed : d.networkServicesStarted = false := by
    cases hstarted : d.networkServicesStarted with
    | false => rfl
    | true => simp [hstarted] at hclosed
  have honce := hd.services.once
  have htasks : TasksKept d.tasks d.appState (true && mqttConfigured config) := by
    refine { hd.tasks with allowed := fun heither => ?_ }
    have hallowed := hd.tasks.allowed heither
    rw [hclosed] at hallowed
    cases hallowed
  exact
    { hd with
      tasks := htasks
      services :=
        { web := rfl
          topics := fun _ => by rw [← hd.identity]; rfl
          once := by
            rw [hclosed] at honce
            exact (count_concat_self _ _).trans (congrArg (· + 1) honce)
          quiet := fun h => by cases h
          addressed := fun act hact => by
            rcases List.mem_append.mp hact with hold | hnew
            · exact hd.services.addressed act hold
            · rw [List.mem_singleton.mp hnew]
              exact trivial }
      wifi := hd.wifi.append rfl
      mqtt := hd.mqtt.append rfl }

/-- The portal is noted while the machine connects. -/
theorem Managed.portalOpened (h : machines.Documented) (hd : Managed deviceId config d) :
    Managed deviceId config (d.portalOpened machines) := by
  rw [portalOpened_eq h hd.mirrored]
  split
  · exact hd.moveTo (by decide) fun _ => by decide
  · exact hd

/-- The end of the loop when the portal is closed: the machine leaves its state. -/
theorem configDone_eq (h : machines.Documented) (hd : Mirrored d.machine d.appState) :
    (if d.appState = .CONFIG_PORTAL then d.trigger machines .EVT_CONFIG_DONE else d) =
      if d.appState = .CONFIG_PORTAL then d.moveTo .WIFI_CONNECTING else d := by
  split
  · rename_i hportal
    rw [trigger_eq h hd, hportal]
    rfl
  · rfl

/-- The end of a loop keeps the connections managed. -/
theorem Managed.finishLoop (h : machines.Documented) (hd : Managed deviceId config d)
    (r services : Reads) : Managed deviceId config (d.finishLoop machines r services) := by
  unfold Device.finishLoop
  split
  · exact hd.portalOpened h
  · have hdone : Managed deviceId config
        (if d.appState = .CONFIG_PORTAL then d.trigger machines .EVT_CONFIG_DONE else d) := by
      rw [configDone_eq h hd.mirrored]
      split
      · exact hd.moveTo (by decide) fun _ => by decide
      · exact hd
    dsimp only
    split
    · exact hdone
    · exact hdone.startNetworkServices services

/-- Suppressing MQTT keeps the connections managed. -/
theorem Managed.suppressMqtt (hd : Managed deviceId config d) (now : ℕ) :
    Managed deviceId config (d.suppressMqtt now) := by
  have hcounted := hd.mqtt
  exact hd.setMqtt ⟨hcounted.attempts, hcounted.successes, hcounted.telemetryAttempts,
    hcounted.publishes, hcounted.answered, hcounted.published⟩

/-- Suppressing Wi-Fi keeps the connections managed. -/
theorem Managed.suppressWifi (hd : Managed deviceId config d) (now : ℕ) :
    Managed deviceId config (d.suppressWifi now) := by
  have hcounted := hd.wifi
  exact hd.setWifi ⟨hcounted.attempts, hcounted.successes, hcounted.losses, hcounted.answered⟩

/-- Every callback keeps the connection manager in order, when its task is enabled. -/
theorem Managed.callback (h : machines.Documented) (hd : Managed deviceId config d) (job : Job)
    (p : Pass) (henabled : d.isEnabled job = true) :
    Managed deviceId config (callback machines testEndpoints p job d) := by
  cases job with
  | wifiCoordinator => exact hd.coordinateWifiTasks h p.first
  | wifiReconnect => exact hd.runWifiReconnectTask p.first p.again p.succeeds
  | mqttCoordinator => exact hd.coordinateMqttTasks p.first
  | mqttReconnect => exact hd.runMqttReconnectTask p.first p.again p.succeeds
  | mqttTelemetry =>
    have hallowed := hd.tasks.allowed (.inr henabled)
    rw [Bool.and_eq_true] at hallowed
    exact hd.runMqttTelemetryTask hallowed.1 p.first p.again p.succeeds

/-- Every call keeps the connection manager in order. -/
theorem Managed.call (h : machines.Documented) (hd : Managed deviceId config d) (c : Call) :
    Managed deviceId config (call machines testEndpoints d c) := by
  cases c with
  | process portalOpens =>
    have hopened : Managed deviceId config
        (if portalOpens then d.portalOpened machines else d) := by
      split
      · exact hd.portalOpened h
      · exact hd
    change Managed deviceId config (Device.runMachine machines _)
    rw [runMachine_eq h hopened.mirrored]
    exact hopened
  | pass job p =>
    change Managed deviceId config (passTask machines testEndpoints job p d)
    rw [passTask_eq hd]
    split
    · rename_i hruns
      rw [Bool.and_eq_true] at hruns
      exact hd.callback h job p hruns.1
    · exact hd
  | finishLoop r services => exact hd.finishLoop h r services
  | webConnect r connects =>
    change Managed deviceId config (if d.webStarted then (d.connectMqtt r connects).1 else d)
    split
    · rename_i hweb
      exact hd.connectMqtt (hd.services.web.symm.trans hweb) r connects
    · exact hd
  | suppressMqtt now =>
    cases testEndpoints with
    | true => exact hd.suppressMqtt now
    | false => exact hd
  | suppressWifi now =>
    cases testEndpoints with
    | true => exact hd.suppressWifi now
    | false => exact hd

/-! ### The start -/

/-- The device when `setup` has run its machine and enabled the coordinators. -/
def booted (deviceId : String) (config : MqttConfig) : Device :=
  (({ deviceId, config, machine := ⟨.BOOT, true⟩ } : Device).enable .wifiCoordinator).enable
    .mqttCoordinator

/-- The first trigger leaves the connection manager in order. -/
theorem booted_managed (deviceId : String) (config : MqttConfig) {state : AppState}
    (hleft : state ≠ .BOOT) : Managed deviceId config ((booted deviceId config).moveTo state) where
  identity := rfl
  settings := rfl
  mirrored := ⟨rfl, rfl, hleft⟩
  tasks :=
    { forever := fun job => by cases job <;> exact ⟨rfl, rfl⟩
      coordinating := ⟨rfl, rfl⟩
      exclusive := fun hboth => by cases hboth.1
      allowed := fun heither => by rcases heither with heither | heither <;> cases heither
      offline := fun henabled => by cases henabled }
  services :=
    { web := rfl
      topics := fun hopen => by cases hopen
      once := rfl
      quiet := fun _ act hact => by cases hact
      addressed := fun act hact => by cases hact }
  wifi := ⟨rfl, rfl, rfl, Nat.le_refl _⟩
  mqtt := ⟨rfl, rfl, rfl, rfl, Nat.le_refl _, Nat.le_refl _⟩

/-- The connections are managed from the setup. -/
theorem setup_managed (h : machines.Documented) (s : Start) (deviceId : String)
    (config : MqttConfig) : Managed deviceId config (setup machines s deviceId config) := by
  have hrun : ((({ deviceId, config } : Device).runMachine machines).enable
      .wifiCoordinator).enable .mqttCoordinator = booted deviceId config := by
    unfold Device.runMachine
    rw [h.first _ rfl]
    rfl
  have htrigger (event : Event) : (booted deviceId config).trigger machines event =
      (booted deviceId config).moveTo (nextState transitions event .BOOT) :=
    trigger_of_running h rfl rfl event
  have hmanaged {state : AppState} (hleft : state ≠ .BOOT) :=
    booted_managed deviceId config hleft
  have hportal : ((booted deviceId config).moveTo .WIFI_CONNECTING).portalOpened machines =
      (booted deviceId config).moveTo .CONFIG_PORTAL := by
    rw [portalOpened_eq h (hmanaged (by decide)).mirrored]
    rfl
  have hup {state : AppState} (hleft : state ≠ .BOOT) : Managed deviceId config
      (((booted deviceId config).moveTo state).trigger machines .EVT_WIFI_UP) := by
    rw [trigger_eq h (hmanaged hleft).mirrored]
    exact hmanaged (nextState_up_ne hleft)
  have hforced : nextState transitions .EVT_FORCE_CONFIG .BOOT = .CONFIG_PORTAL := rfl
  have hstarted : nextState transitions .EVT_START_NETWORK .BOOT = .WIFI_CONNECTING := rfl
  unfold setup
  simp only [hrun, htrigger, hforced, hstarted, hportal]
  cases s.portalOpens <;> simp only [Bool.false_eq_true, if_true, if_false]
  · split
    · exact hmanaged (by decide)
    · split
      · exact (hup (by decide)).startNetworkServices s.services
      · exact hmanaged (by decide)
  · split
    · exact (hmanaged (by decide)).portalOpened h
    · split
      · exact (hup (by decide)).startNetworkServices s.services
      · exact hmanaged (by decide)

/-- A run of calls keeps the connection manager in order. -/
theorem managed_run (h : machines.Documented) (testEndpoints : Bool)
    (hd : Managed deviceId config d) (calls : List Call) :
    Managed deviceId config (run (call machines testEndpoints) d calls) :=
  run_invariant (I := Managed deviceId config) (fun _ c hd => Managed.call h hd c) hd calls

/-- A run of the main loop is a run of its calls, one loop after the other. -/
theorem run_loop (machines : EntryMachines AppState Event) (testEndpoints : Bool) (d : Device)
    (iterations : List Iteration) :
    run (loop machines testEndpoints) d iterations =
      run (call machines testEndpoints) d (iterations.flatMap loopCalls) := by
  induction iterations generalizing d with
  | nil => rfl
  | cons i iterations ih =>
    rw [run_cons, List.flatMap_cons, run_append, ih]
    rfl

/-- From every start, every run of the main loop leaves the connection manager in order. -/
theorem loops_managed (h : machines.Documented) (testEndpoints : Bool) (s : Start)
    (deviceId : String) (config : MqttConfig) (iterations : List Iteration) :
    Managed deviceId config
      (run (loop machines testEndpoints) (setup machines s deviceId config) iterations) := by
  rw [run_loop]
  exact managed_run h testEndpoints (setup_managed h s deviceId config) _

/-- From every start, every run of calls leaves the connection manager in order. -/
theorem connection_run (h : machines.Documented) (testEndpoints : Bool) (s : Start)
    (deviceId : String) (config : MqttConfig) (calls : List Call) :
    Managed deviceId config
      (run (call machines testEndpoints) (setup machines s deviceId config) calls) :=
  managed_run h testEndpoints (setup_managed h s deviceId config) calls

/-- Readings of a closed portal. -/
def sampleReads (wifiUp mqttConnected : Bool) (now : ℕ) : Reads where
  portalActive := false
  wifiUp := wifiUp
  mqttConnected := mqttConnected
  now := now

/-- A pass over a task that is due, with the same answers throughout. -/
def samplePass (r : Reads) : Pass where
  due := true
  first := r
  again := r
  succeeds := true

/-- A start that finds no network. -/
def sampleStart : Start where
  forceConfig := false
  portalOpens := false
  autoConnects := false
  connected := sampleReads false false 0
  services := sampleReads false false 0

/-- Settings of a broker and a user. -/
def sampleConfig : MqttConfig where
  mqttHost := "kpnote.local"
  mqttPort := 1883
  mqttUsername := "user"
  mqttPassword := "password"

/-- The radio is lost, reconnected and found again, and the broker is connected. -/
def sampleCalls : List Call :=
  [.pass .wifiCoordinator (samplePass (sampleReads false false 250)),
    .pass .wifiReconnect (samplePass (sampleReads false false 250)),
    .pass .wifiCoordinator (samplePass (sampleReads true false 500)),
    .finishLoop (sampleReads true false 500) (sampleReads true false 500),
    .pass .mqttCoordinator (samplePass (sampleReads true false 750)),
    .pass .mqttReconnect (samplePass (sampleReads true false 750)),
    .pass .mqttCoordinator (samplePass (sampleReads true true 1000))]

/-- The sample's run, with what it has done. -/
theorem connection_run_sample :
    Managed "10A2CCEF49C0" sampleConfig
      (run (call sampleEntryMachines false)
        (setup sampleEntryMachines sampleStart "10A2CCEF49C0" sampleConfig) sampleCalls) ∧
      (run (call sampleEntryMachines false)
        (setup sampleEntryMachines sampleStart "10A2CCEF49C0" sampleConfig) sampleCalls).acts =
        [.wifiAttempt, .wifiSuccess, .startServices, .mqttAttempt,
          .subscribe "lab/proj-esp32/10A2CCEF49C0/cmd",
          .publish "lab/proj-esp32/10A2CCEF49C0/state", .mqttSuccess] :=
  ⟨connection_run sampleEntryMachines_documented false sampleStart "10A2CCEF49C0" sampleConfig
    sampleCalls, by decide⟩

end ProjEsp32.ConnectionManager
