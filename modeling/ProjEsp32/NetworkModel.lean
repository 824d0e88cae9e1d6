import ProjEsp32.ConnectionRuns

/-!
# The network state

What the connection manager shows and schedules depends on the readings of the radio,
the portal and the MQTT client only. The model here says how; the connection manager
refines it, and what stable readings lead to is shown on the model.
-/

namespace ProjEsp32.ConnectionManager

open CooperativeTask MachineEntries MachineLibrary TransitionRuns
open MqttSettings (MqttConfig mqttConfigured)

/-- What the device shows of its network, and which of its tasks are at work. -/
structure Network where
  /-- The state of the application. -/
  state : AppState
  /-- The services are started. -/
  started : Bool := false
  /-- The task that reconnects the radio is at work. -/
  wifiRetry : Bool := false
  /-- The task that connects the broker is at work. -/
  mqttRetry : Bool := false
  /-- The task that sends telemetry is at work. -/
  telemetry : Bool := false
  deriving DecidableEq

namespace Network

/-- An open portal is shown instead of an attempt to connect. -/
def openPortal (n : Network) : Network :=
  { n with state := if n.state = .WIFI_CONNECTING then .CONFIG_PORTAL else n.state }

/-- The broker may be used. -/
def eligible (configured : Bool) (r : Reads) (n : Network) : Bool :=
  n.started && r.wifiUp && !r.portalActive && configured

/-- The client is connected after an attempt. -/
def connects (configured : Bool) (p : Pass) : Bool :=
  if !p.again.wifiUp || p.again.mqttConnected then p.again.mqttConnected
  else configured && p.succeeds

/-- The radio as the coordinator reads it is shown, unless the portal is. -/
def coordinateWifi (r : Reads) (n : Network) : Network :=
  if r.portalActive then { n with wifiRetry := false }
  else
    { n with
      state :=
        if n.state = .CONFIG_PORTAL then .CONFIG_PORTAL
        else if r.wifiUp then .ONLINE else .OFFLINE
      wifiRetry := !r.wifiUp }

/-- A task runs. -/
def runs (configured : Bool) (p : Pass) (n : Network) : Job → Network
  | .wifiCoordinator => n.coordinateWifi p.first
  | .wifiReconnect =>
    { n with wifiRetry := n.wifiRetry && !p.first.portalActive && !p.first.wifiUp }
  | .mqttCoordinator =>
    { n with
      mqttRetry := n.eligible configured p.first && !p.first.mqttConnected
      telemetry := n.eligible configured p.first && p.first.mqttConnected }
  | .mqttReconnect =>
    { n with
      mqttRetry := n.mqttRetry && n.eligible configured p.first && !p.first.mqttConnected &&
        !connects configured p }
  | .mqttTelemetry => { n with telemetry := n.telemetry && p.first.mqttConnected }

/-- The end of the loop: a portal that is closed is left, and the services are
started with the radio up. -/
def finish (r services : Reads) (n : Network) : Network :=
  if r.portalActive then n.openPortal
  else
    { n with
      state := if n.state = .CONFIG_PORTAL then .WIFI_CONNECTING else n.state
      started := n.started || r.wifiUp && services.wifiUp && !services.portalActive }

/-- One call. -/
def next (configured : Bool) (n : Network) : Call → Network
  | .process portalOpens => if portalOpens then n.openPortal else n
  | .pass job p => if p.due then n.runs configured p job else n
  | .finishLoop r services => n.finish r services
  | .webConnect _ _ => n
  | .suppressMqtt _ => n
  | .suppressWifi _ => n

end Network

/-- What a device shows of its network. -/
def Device.network (d : Device) : Network where
  state := d.appState
  started := d.networkServicesStarted
  wifiRetry := d.isEnabled .wifiReconnect
  mqttRetry := d.isEnabled .mqttReconnect
  telemetry := d.isEnabled .mqttTelemetry

variable {machines : EntryMachines AppState Event} {d : Device}
variable {deviceId : String} {config : MqttConfig}

/-! ### The connection manager refines the model -/

/-- Disabling the Wi-Fi reconnect task ends the retries of Wi-Fi. -/
theorem disableWifiReconnect_network (d : Device) :
    (d.disable .wifiReconnect).network = { d.network with wifiRetry := false } := rfl

/-- Disabling the MQTT reconnect task ends the retries of MQTT. -/
theorem disableMqttReconnect_network (d : Device) :
    (d.disable .mqttReconnect).network = { d.network with mqttRetry := false } := rfl

/-- Disabling the telemetry task ends the telemetry. -/
theorem disableMqttTelemetry_network (d : Device) :
    (d.disable .mqttTelemetry).network = { d.network with telemetry := false } := rfl

/-- A move of the machine changes the state of the network alone. -/
theorem moveTo_network (state : AppState) (d : Device) :
    (d.moveTo state).network = { d.network with state := state } := rfl

/-- The callback of the portal opens it in the abstract network. -/
theorem portalOpened_network (h : machines.Documented) (hd : Managed deviceId config d) :
    (d.portalOpened machines).network = d.network.openPortal := by
  rw [portalOpened_eq h hd.mirrored]
  unfold Network.openPortal
  by_cases hconnecting : d.appState = .WIFI_CONNECTING
  · have hshown : d.network.state = .WIFI_CONNECTING := hconnecting
    rw [if_pos hconnecting, moveTo_network, if_pos hshown]
  · have hshown : ¬d.network.state = .WIFI_CONNECTING := hconnecting
    rw [if_neg hconnecting, if_neg hshown]

/-- Noting the connection ends the retries of Wi-Fi. -/
theorem seenUp_network (r : Reads) (d : Device) :
    (d.seenUp r).network = { d.network with wifiRetry := false } := by
  unfold Device.seenUp Device.noteWifiUp
  rw [disableWifiReconnect_network]
  split <;> rfl

/-- Noting the loss leaves the network as it is. -/
theorem seenDown_network (r : Reads) (d : Device) : (d.seenDown r).network = d.network := by
  unfold Device.seenDown Device.noteWifiDown
  split <;> rfl

/-- The states that the readings of the radio lead to. -/
theorem nextState_up {state : AppState} (hleft : state ≠ .BOOT) :
    nextState transitions .EVT_WIFI_UP state =
      if state = .CONFIG_PORTAL then .CONFIG_PORTAL else .ONLINE := by
  cases state <;> first | rfl | exact absurd rfl hleft

/-- The loss of Wi-Fi leads to `OFFLINE`, except from the portal. -/
theorem nextState_down {state : AppState} (hleft : state ≠ .BOOT) :
    nextState transitions .EVT_WIFI_DOWN state =
      if state = .CONFIG_PORTAL then .CONFIG_PORTAL else .OFFLINE := by
  cases state <;> first | rfl | exact absurd rfl hleft

/-- A radio that is down is to be reconnected. -/
theorem switchReconnect_network (r : Reads) (d : Device) :
    (d.switchReconnect false r).network = { d.network with wifiRetry := true } := by
  have hallowed : d.wifiReconnectAllowedNow false r.now = true := rfl
  unfold Device.switchReconnect
  rw [if_pos hallowed]
  split
  · rename_i henabled
    rw [← henabled]
    rfl
  · rfl

/-- The Wi-Fi coordinator does what the abstract coordination does. -/
theorem coordinateWifiTasks_network (h : machines.Documented) (hd : Managed deviceId config d)
    (r : Reads) :
    (d.coordinateWifiTasks machines false r).network = d.network.coordinateWifi r := by
  have hleft := hd.mirrored.left
  unfold Device.coordinateWifiTasks Network.coordinateWifi
  cases hportal : r.portalActive with
  | true =>
    have hdisabled := disableWifiReconnect_network d
    unfold Device.coordinatePortal
    rw [disableIfEnabled_eq]
    exact hdisabled
  | false =>
    cases hup : r.wifiUp with
    | true =>
      have hmoved := coordinateWifiUp_eq h hd r
      simp only [Bool.false_eq_true, if_false, if_true, hmoved]
      rw [moveTo_network, seenUp_network, nextState_up hleft]
      rfl
    | false =>
      have hmoved := coordinateWifiDown_eq false h hd r
      simp only [Bool.false_eq_true, if_false, hmoved]
      rw [switchReconnect_network, moveTo_network, seenDown_network, nextState_down hleft]
      rfl

/-- A retry goes on while the radio is down and the portal is closed. -/
theorem runWifiReconnectTask_network (r again : Reads) (started : Bool)
    (henabled : d.isEnabled .wifiReconnect = true) :
    (d.runWifiReconnectTask false r again started).network =
      { d.network with wifiRetry := !r.portalActive && !r.wifiUp } := by
  have hallowed : d.wifiReconnectAllowedNow false r.now = true := rfl
  have hkept : d.network = { d.network with wifiRetry := true } := by
    rw [← henabled]
    rfl
  unfold Device.runWifiReconnectTask
  rw [hallowed]
  cases r.portalActive with
  | true => rfl
  | false =>
    cases r.wifiUp with
    | true => rfl
    | false => exact hkept

/-- The MQTT coordinator enables the reconnect task or the telemetry task, as the readings say. -/
theorem coordinateMqttTasks_network (hd : Managed deviceId config d) (r : Reads) :
    (d.coordinateMqttTasks false r).network =
      { d.network with
        mqttRetry := d.network.eligible (mqttConfigured config) r && !r.mqttConnected
        telemetry := d.network.eligible (mqttConfigured config) r && r.mqttConnected } := by
  have hsame : (d.networkServicesStarted && r.wifiUp && !r.portalActive &&
      mqttConfigured d.config) =
      d.network.eligible (mqttConfigured config) r := by
    rw [hd.settings]
    rfl
  have hallowed (e : Device) : e.mqttReconnectAllowedNow false r.now = true := rfl
  unfold Device.coordinateMqttTasks
  simp only [disableIfEnabled_eq, hsame, hallowed]
  cases heligible : d.network.eligible (mqttConfigured config) r with
  | false => rfl
  | true =>
    cases r.mqttConnected with
    | true =>
      simp only [Bool.not_true, Bool.false_eq_true, if_false, if_true]
      cases henabled : (d.disable .mqttReconnect).isEnabled .mqttTelemetry with
      | false => rfl
      | true =>
        have hkept : d.isEnabled .mqttTelemetry = true := henabled
        simp only [Bool.not_true, Bool.false_eq_true, if_false]
        rw [disableMqttReconnect_network, Device.network, hkept]
        rfl
    | false =>
      simp only [Bool.not_true, Bool.false_eq_true, if_false]
      cases henabled : (d.disable .mqttTelemetry).isEnabled .mqttReconnect with
      | false => rfl
      | true =>
        have hkept : d.isEnabled .mqttReconnect = true := henabled
        simp only [Bool.not_true, Bool.false_eq_true, if_false]
        rw [disableMqttTelemetry_network, Device.network, hkept]
        rfl

/-- An attempt to connect shows the same, and returns whether the client is connected. -/
theorem connectMqtt_network (p : Pass) (hsettings : d.config = config) :
    (d.connectMqtt p.again p.succeeds).1.network = d.network ∧
      (d.connectMqtt p.again p.succeeds).2 = Network.connects (mqttConfigured config) p := by
  unfold Device.connectMqtt Network.connects
  rw [hsettings]
  cases !p.again.wifiUp || p.again.mqttConnected with
  | true => exact ⟨rfl, rfl⟩
  | false =>
    cases mqttConfigured config with
    | false => exact ⟨rfl, rfl⟩
    | true =>
      cases p.succeeds with
      | false => exact ⟨rfl, rfl⟩
      | true => exact ⟨rfl, rfl⟩

/-- The broker may be used exactly when the reconnect task does not stop. -/
theorem eligible_eq (hd : Managed deviceId config d) (r : Reads) :
    (!r.wifiUp || r.portalActive || !d.networkServicesStarted || !mqttConfigured d.config ||
      !d.mqttReconnectAllowedNow false r.now) =
      !d.network.eligible (mqttConfigured config) r := by
  have hallowed : d.mqttReconnectAllowedNow false r.now = true := rfl
  rw [hallowed, hd.settings]
  unfold Network.eligible Device.network
  cases r.wifiUp <;> cases r.portalActive <;> cases d.networkServicesStarted <;>
    cases mqttConfigured config <;> rfl

/-- An attempt leaves the retries enabled until the client is connected. -/
theorem runMqttReconnectTask_network (hd : Managed deviceId config d) (p : Pass)
    (henabled : d.isEnabled .mqttReconnect = true) :
    (d.runMqttReconnectTask false p.first p.again p.succeeds).network =
      { d.network with
        mqttRetry := d.network.eligible (mqttConfigured config) p.first &&
          !p.first.mqttConnected && !Network.connects (mqttConfigured config) p } := by
  have hsame := eligible_eq hd p.first
  have hkept : d.network = { d.network with mqttRetry := true } := by
    rw [← henabled]
    rfl
  unfold Device.runMqttReconnectTask
  rw [hsame]
  cases d.network.eligible (mqttConfigured config) p.first with
  | false => rfl
  | true =>
    cases p.first.mqttConnected with
    | true => rfl
    | false =>
      have hattempted : (d.attempted p.first).network = d.network := rfl
      obtain ⟨hnetwork, hreturns⟩ := connectMqtt_network (d := d.attempted p.first) p hd.settings
      rw [hattempted] at hnetwork
      simp only [Bool.not_true, Bool.false_eq_true, if_false]
      change Device.network (if ((d.attempted p.first).connectMqtt p.again p.succeeds).2 then _
        else _) = _
      rw [hreturns]
      cases Network.connects (mqttConfigured config) p with
      | true =>
        rw [← hnetwork]
        rfl
      | false =>
        rw [if_neg Bool.false_ne_true]
        exact hnetwork.trans hkept

/-- The telemetry goes on while the client is connected. -/
theorem runMqttTelemetryTask_network (p : Pass) (henabled : d.isEnabled .mqttTelemetry = true) :
    (d.runMqttTelemetryTask p.first p.again p.succeeds).network =
      { d.network with telemetry := p.first.mqttConnected } := by
  have hkept : d.network = { d.network with telemetry := true } := by
    rw [← henabled]
    rfl
  unfold Device.runMqttTelemetryTask
  cases p.first.mqttConnected with
  | false => rfl
  | true =>
    cases p.succeeds with
    | true => exact hkept
    | false => exact hkept

/-- The services are started once the radio is up and the portal is closed. -/
theorem startNetworkServices_network (r : Reads) (d : Device) :
    (d.startNetworkServices r).network =
      { d.network with started := d.network.started || r.wifiUp && !r.portalActive } := by
  have hshown : d.network.started = d.networkServicesStarted := rfl
  rw [hshown]
  unfold Device.startNetworkServices
  cases hstarted : d.networkServicesStarted with
  | true =>
    rw [Bool.true_or, Bool.true_or, if_pos (by simp), Bool.true_or, ← hstarted]
    rfl
  | false =>
    cases r.wifiUp with
    | false =>
      rw [if_pos (by simp), Bool.false_and, Bool.or_false, ← hstarted]
      rfl
    | true =>
      cases r.portalActive with
      | true =>
        rw [if_pos (by simp), Bool.not_true, Bool.and_false, Bool.or_false, ← hstarted]
        rfl
      | false => rfl

/-- The end of a loop does what the abstract one does. -/
theorem finishLoop_network (h : machines.Documented) (hd : Managed deviceId config d)
    (r services : Reads) :
    (d.finishLoop machines r services).network = d.network.finish r services := by
  have hdone : (if d.appState = .CONFIG_PORTAL then d.trigger machines .EVT_CONFIG_DONE
      else d).network = { d.network with
        state := if d.network.state = .CONFIG_PORTAL then .WIFI_CONNECTING
          else d.network.state } := by
    rw [configDone_eq h hd.mirrored]
    by_cases hportal : d.appState = .CONFIG_PORTAL
    · have hshown : d.network.state = .CONFIG_PORTAL := hportal
      rw [if_pos hportal, if_pos hshown, moveTo_network]
    · have hshown : ¬d.network.state = .CONFIG_PORTAL := hportal
      rw [if_neg hportal, if_neg hshown]
  unfold Device.finishLoop Network.finish
  cases r.portalActive with
  | true => exact portalOpened_network h hd
  | false =>
    cases r.wifiUp with
    | false =>
      simp only [Bool.false_eq_true, if_false, Bool.not_false, if_true, Bool.false_and,
        Bool.or_false]
      exact hdone
    | true =>
      simp only [Bool.false_eq_true, if_false, Bool.not_true, Bool.true_and]
      rw [startNetworkServices_network, hdone]

/-- A task that runs changes what is shown as the model says. -/
theorem callback_network (h : machines.Documented) (hd : Managed deviceId config d) (job : Job)
    (p : Pass) (henabled : d.isEnabled job = true) :
    (callback machines false p job d).network =
      d.network.runs (mqttConfigured config) p job := by
  cases job with
  | wifiCoordinator => exact coordinateWifiTasks_network h hd p.first
  | wifiReconnect =>
    have hretry : d.network.wifiRetry = true := henabled
    rw [Network.runs, hretry, Bool.true_and]
    exact runWifiReconnectTask_network p.first p.again p.succeeds henabled
  | mqttCoordinator => exact coordinateMqttTasks_network hd p.first
  | mqttReconnect =>
    have hretry : d.network.mqttRetry = true := henabled
    rw [Network.runs, hretry, Bool.true_and]
    exact runMqttReconnectTask_network hd p henabled
  | mqttTelemetry =>
    have htelemetry : d.network.telemetry = true := henabled
    rw [Network.runs, htelemetry, Bool.true_and]
    exact runMqttTelemetryTask_network p henabled

/-- A task that is not at work changes nothing in the model either. -/
theorem runs_of_disabled (hd : Managed deviceId config d) (configured : Bool) (p : Pass) (job : Job)
    (hdisabled : d.isEnabled job = false) : d.network.runs configured p job = d.network := by
  cases job with
  | wifiCoordinator =>
    have henabled : d.isEnabled .wifiCoordinator = true := hd.tasks.coordinating.1
    rw [henabled] at hdisabled
    cases hdisabled
  | wifiReconnect =>
    have hretry : d.network.wifiRetry = false := hdisabled
    rw [Network.runs, hretry, Bool.false_and, Bool.false_and, ← hretry]
  | mqttCoordinator =>
    have henabled : d.isEnabled .mqttCoordinator = true := hd.tasks.coordinating.2
    rw [henabled] at hdisabled
    cases hdisabled
  | mqttReconnect =>
    have hretry : d.network.mqttRetry = false := hdisabled
    rw [Network.runs, hretry, Bool.false_and, Bool.false_and, Bool.false_and, ← hretry]
  | mqttTelemetry =>
    have htelemetry : d.network.telemetry = false := hdisabled
    rw [Network.runs, htelemetry, Bool.false_and, ← htelemetry]

/-- Each call changes what is shown as the model says. -/
theorem call_network (h : machines.Documented) (hd : Managed deviceId config d) (c : Call) :
    (call machines false d c).network = d.network.next (mqttConfigured config) c := by
  cases c with
  | process portalOpens =>
    cases portalOpens with
    | true =>
      change ((d.portalOpened machines).runMachine machines).network = d.network.openPortal
      rw [runMachine_eq h (hd.portalOpened h).mirrored]
      exact portalOpened_network h hd
    | false =>
      change (d.runMachine machines).network = d.network
      rw [runMachine_eq h hd.mirrored]
  | pass job p =>
    change (passTask machines false job p d).network =
      if p.due then d.network.runs (mqttConfigured config) p job else d.network
    rw [passTask_eq hd]
    cases p.due with
    | false => rw [Bool.and_false, if_neg Bool.false_ne_true, if_neg Bool.false_ne_true]
    | true =>
      cases henabled : d.isEnabled job with
      | true => exact callback_network h hd job p henabled
      | false => exact (runs_of_disabled hd _ p job henabled).symm
  | finishLoop r services => exact finishLoop_network h hd r services
  | webConnect r connects =>
    change (if d.webStarted then (d.connectMqtt r connects).1 else d).network = d.network
    split
    · have hsettings : d.config = d.config := rfl
      exact (connectMqtt_network ⟨true, r, r, connects⟩ hsettings).1
    · rfl
  | suppressMqtt now => rfl
  | suppressWifi now => rfl

/-- In a build without the test endpoints, what the device shows along every run is
what the model makes of the readings. -/
theorem network_run (h : machines.Documented) (s : Start) (deviceId : String)
    (config : MqttConfig) (calls : List Call) :
    (run (call machines false) (setup machines s deviceId config) calls).network =
      run (Network.next (mqttConfigured config)) (setup machines s deviceId config).network
        calls :=
  view_run (I := Managed deviceId config) (fun _ c hd => Managed.call h hd c)
    (fun _ c hd => call_network h hd c) (setup_managed h s deviceId config) calls

/-- A run whose device ends online with its services started and its telemetry enabled. -/
theorem network_run_sample :
    (run (call sampleEntryMachines false)
      (setup sampleEntryMachines sampleStart "10A2CCEF49C0" sampleConfig) sampleCalls).network =
      ⟨.ONLINE, true, false, false, true⟩ :=
  (network_run sampleEntryMachines_documented sampleStart "10A2CCEF49C0" sampleConfig
    sampleCalls).trans (by decide)

end ProjEsp32.ConnectionManager
