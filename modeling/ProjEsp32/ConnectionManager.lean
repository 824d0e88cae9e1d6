import Mathlib.Algebra.Group.Nat.Defs
import Mathlib.Logic.Function.Basic
import ProjEsp32.CooperativeTask
import ProjEsp32.MachineEntries
import ProjEsp32.MqttSettings
import ProjEsp32.TransitionRuns

/-!
# The connection manager

A state machine stands for the network side of the device. Two coordinator tasks
read the radio, the setup portal and the MQTT client, lead the machine and switch the
tasks that reconnect and that send telemetry; the end of each loop opens the services
once. What the libraries answer is given at each moment at which they are asked.
-/

namespace ProjEsp32.ConnectionManager

open ArduinoText CooperativeTask MachineEntries MachineLibrary
open MqttSettings (MqttConfig mqttConfigured)

/-- The states of the connection manager. -/
inductive AppState where
  | BOOT
  | CONFIG_PORTAL
  | WIFI_CONNECTING
  | ONLINE
  | OFFLINE
  deriving DecidableEq

/-- The events of its machine. -/
inductive Event where
  | EVT_START_NETWORK
  | EVT_FORCE_CONFIG
  | EVT_PORTAL_OPEN
  | EVT_CONFIG_DONE
  | EVT_WIFI_UP
  | EVT_WIFI_DOWN
  deriving DecidableEq

/-- `configureStateMachine`. -/
def transitions : List (Transition AppState Event) :=
  [⟨.BOOT, .WIFI_CONNECTING, .EVT_START_NETWORK⟩, ⟨.BOOT, .CONFIG_PORTAL, .EVT_FORCE_CONFIG⟩,
    ⟨.WIFI_CONNECTING, .CONFIG_PORTAL, .EVT_PORTAL_OPEN⟩,
    ⟨.CONFIG_PORTAL, .WIFI_CONNECTING, .EVT_CONFIG_DONE⟩,
    ⟨.WIFI_CONNECTING, .ONLINE, .EVT_WIFI_UP⟩, ⟨.WIFI_CONNECTING, .OFFLINE, .EVT_WIFI_DOWN⟩,
    ⟨.ONLINE, .OFFLINE, .EVT_WIFI_DOWN⟩, ⟨.OFFLINE, .ONLINE, .EVT_WIFI_UP⟩]

/-- What the libraries answer when they are asked at one moment. -/
structure Reads where
  /-- `wifiManager.getConfigPortalActive()`. -/
  portalActive : Bool
  /-- `WiFi.status() == WL_CONNECTED`. -/
  wifiUp : Bool
  /-- `mqttClient.connected()`. -/
  mqttConnected : Bool
  /-- `millis()`. -/
  now : ℕ

/-- The tasks of the connection manager, in the order of the scheduler's chain. -/
inductive Job where
  | wifiCoordinator
  | wifiReconnect
  | mqttCoordinator
  | mqttReconnect
  | mqttTelemetry
  deriving DecidableEq

/-- The tasks as they are declared: each runs forever, and none is enabled. -/
def declared : Job → Task
  | .wifiCoordinator => { interval := 250 }
  | .wifiReconnect => { interval := 5000 }
  | .mqttCoordinator => { interval := 250 }
  | .mqttReconnect => { interval := 5000 }
  | .mqttTelemetry => { interval := 10000 }

/-- What the application has done, as far as it counts or sends it. -/
inductive Act where
  | wifiAttempt
  | wifiSuccess
  | wifiLoss
  | mqttAttempt
  | mqttSuccess
  | telemetryAttempt
  | telemetryPublish
  | startServices
  | subscribe (topic : String)
  | publish (topic : String)
  deriving DecidableEq

/-- The topics of the device. -/
structure Topics where
  /-- The topic of the state. -/
  topicState : String := ""
  /-- The topic of the telemetry. -/
  topicTelemetry : String := ""
  /-- The topic of the events. -/
  topicEvents : String := ""
  /-- The topic that the device subscribes to. -/
  topicCommand : String := ""
  deriving DecidableEq

/-- The variables of the Wi-Fi side. -/
structure WifiRuntime where
  /-- The attempts to reconnect, in 32 bits. -/
  wifiReconnectAttemptCount : ℕ := 0
  /-- The attempts after which the radio was seen up. -/
  wifiReconnectSuccessCount : ℕ := 0
  /-- The losses of the radio that were seen. -/
  wifiDisconnectObservedCount : ℕ := 0
  /-- When the last attempt was made. -/
  wifiLastReconnectAttemptMs : ℕ := 0
  /-- When the last attempt was seen to succeed. -/
  wifiLastReconnectSuccessMs : ℕ := 0
  /-- When the last loss was seen. -/
  wifiLastDisconnectObservedMs : ℕ := 0
  /-- What became of the last attempt. -/
  wifiLastReconnectResult : String := "never"
  /-- An attempt has been made and not been answered. -/
  wifiReconnectPending : Bool := false
  /-- The radio was up when it was looked at last. -/
  wifiLastObservedConnected : Bool := false
  /-- Only in the builds with the test endpoints. -/
  wifiReconnectSuppressedUntil : ℕ := 0

/-- The variables of the MQTT side. -/
structure MqttRuntime where
  /-- The attempts to connect, in 32 bits. -/
  mqttReconnectAttemptCount : ℕ := 0
  /-- The attempts that connected. -/
  mqttReconnectSuccessCount : ℕ := 0
  /-- The attempts to publish the telemetry. -/
  mqttTelemetryAttemptCount : ℕ := 0
  /-- Those of them that were published. -/
  mqttTelemetryPublishCount : ℕ := 0
  /-- When the last attempt to connect was made. -/
  mqttLastReconnectAttemptMs : ℕ := 0
  /-- When one connected last. -/
  mqttLastReconnectSuccessMs : ℕ := 0
  /-- When the last attempt to publish was made. -/
  mqttLastTelemetryAttemptMs : ℕ := 0
  /-- When the telemetry was published last. -/
  mqttLastTelemetryPublishMs : ℕ := 0
  /-- What became of the last attempt to connect. -/
  mqttLastReconnectResult : String := "never"
  /-- What became of the last attempt to publish. -/
  mqttLastTelemetryResult : String := "never"
  /-- Only in the builds with the test endpoints. -/
  mqttReconnectSuppressedUntil : ℕ := 0

/-- The variables of the application. -/
structure Device where
  /-- The name of the device in its topics. -/
  deviceId : String
  /-- The settings that were loaded at the boot. -/
  config : MqttConfig
  /-- The state machine of the application. -/
  machine : Machine AppState := { current := .BOOT }
  /-- The copy of its state that the entry functions write. -/
  appState : AppState := .BOOT
  /-- `startNetworkServices` has been called. -/
  networkServicesStarted : Bool := false
  /-- The web server has been started. -/
  webStarted : Bool := false
  /-- The topics, once the services are started. -/
  topics : Topics := {}
  /-- The Wi-Fi side. -/
  wifi : WifiRuntime := {}
  /-- The MQTT side. -/
  mqtt : MqttRuntime := {}
  /-- The five tasks of the connection. -/
  tasks : Job → Task := declared
  /-- What the application has done so far; nothing reads it. -/
  acts : List Act := []

/-- A counter of 32 bits. -/
def increment (count : ℕ) : ℕ := (count + 1) % 2^32

/-- `static_cast<int32_t>(now - moment) >= 0`. -/
def notBefore (moment now : ℕ) : Bool := (now + (2^32 - moment % 2^32)) % 2^32 < 2^31

namespace Device

/-- Note what has been done. -/
def note (act : Act) (d : Device) : Device := { d with acts := d.acts ++ [act] }

/-- `Task::isEnabled`. -/
def isEnabled (job : Job) (d : Device) : Bool := (d.tasks job).enabled

/-- A call of one of the tasks. -/
def onTask (job : Job) (operation : Task → Task) (d : Device) : Device :=
  { d with tasks := Function.update d.tasks job (operation (d.tasks job)) }

/-- `Task::enable`; the other calls that start a task differ in when it is due. -/
def enable (job : Job) (d : Device) : Device := d.onTask job Task.enable

/-- `Task::disable`. -/
def disable (job : Job) (d : Device) : Device := d.onTask job Task.disable

/-- Each entry function copies its state. -/
def enter (state : AppState) (d : Device) : Device := { d with appState := state }

/-- `BOOT` is entered. -/
def enterBoot (d : Device) : Device := d.enter .BOOT

/-- `CONFIG_PORTAL` is entered. -/
def enterConfigPortal (d : Device) : Device := d.enter .CONFIG_PORTAL

/-- `WIFI_CONNECTING` is entered. -/
def enterWifiConnecting (d : Device) : Device := d.enter .WIFI_CONNECTING

/-- `ONLINE` is entered. -/
def enterOnline (d : Device) : Device := d.enter .ONLINE

/-- `OFFLINE` is entered. -/
def enterOffline (d : Device) : Device := d.enter .OFFLINE

/-- The entry function of each state. -/
def onEnter : AppState → Device → Device
  | .BOOT => enterBoot
  | .CONFIG_PORTAL => enterConfigPortal
  | .WIFI_CONNECTING => enterWifiConnecting
  | .ONLINE => enterOnline
  | .OFFLINE => enterOffline

/-- A call of the machine, with the entry functions that it calls. -/
def entered (called : Machine AppState × List AppState) (d : Device) : Device :=
  called.2.foldl (fun d state => onEnter state d) { d with machine := called.1 }

/-- `machine.trigger`. -/
def trigger (machines : EntryMachines AppState Event) (event : Event) (d : Device) : Device :=
  d.entered (machines.trigger transitions event d.machine)

/-- `machine.run_machine`. -/
def runMachine (machines : EntryMachines AppState Event) (d : Device) : Device :=
  d.entered (machines.runMachine d.machine)

/-- `connectMqtt`, with the answer of the client's `connect`; and what it returns. -/
def connectMqtt (r : Reads) (connects : Bool) (d : Device) : Device × Bool :=
  if !r.wifiUp || r.mqttConnected then (d, r.mqttConnected)
  else if !mqttConfigured d.config then (d, false)
  else if !connects then (d, false)
  else ((d.note (.subscribe d.topics.topicCommand)).note (.publish d.topics.topicState), true)

/-- `wifiReconnectAllowedNow`, in a build with the test endpoints or without. -/
def wifiReconnectAllowedNow (testEndpoints : Bool) (now : ℕ) (d : Device) : Bool :=
  !testEndpoints || notBefore d.wifi.wifiReconnectSuppressedUntil now

/-- `mqttReconnectAllowedNow`. -/
def mqttReconnectAllowedNow (testEndpoints : Bool) (now : ℕ) (d : Device) : Bool :=
  !testEndpoints || notBefore d.mqtt.mqttReconnectSuppressedUntil now

/-- `runWifiReconnectTask`. The libraries are asked again for the text of the
result; the answer is that of `WiFi.reconnect`. -/
def runWifiReconnectTask (testEndpoints : Bool) (r again : Reads) (started : Bool) (d : Device) :
    Device :=
  if r.portalActive || r.wifiUp || !d.wifiReconnectAllowedNow testEndpoints r.now then
    let result :=
      if again.portalActive then "portal_active"
      else if again.wifiUp then "already_connected" else "suppressed"
    { d with wifi := { d.wifi with wifiLastReconnectResult := result } }.disable .wifiReconnect
  else
    { d with
      wifi := { d.wifi with
        wifiReconnectAttemptCount := increment d.wifi.wifiReconnectAttemptCount
        wifiLastReconnectAttemptMs := r.now % 2^32
        wifiReconnectPending := true
        wifiLastReconnectResult :=
          if started then "reconnect_started" else "reconnect_start_failed" } }.note .wifiAttempt

/-- The successful end of an attempt is counted when the radio is seen up again. -/
def noteWifiUp (r : Reads) (d : Device) : Device :=
  if !d.wifi.wifiLastObservedConnected && d.wifi.wifiReconnectPending then
    { d with
      wifi := { d.wifi with
        wifiReconnectSuccessCount := increment d.wifi.wifiReconnectSuccessCount
        wifiLastReconnectSuccessMs := r.now % 2^32
        wifiLastReconnectResult := "connected" } }.note .wifiSuccess
  else d

/-- The loss is counted when the radio was seen up last time. -/
def noteWifiDown (r : Reads) (d : Device) : Device :=
  if d.wifi.wifiLastObservedConnected then
    { d with
      wifi := { d.wifi with
        wifiDisconnectObservedCount := increment d.wifi.wifiDisconnectObservedCount
        wifiLastDisconnectObservedMs := r.now % 2^32 } }.note .wifiLoss
  else d

/-- A task that is enabled is disabled. -/
def disableIfEnabled (job : Job) (d : Device) : Device :=
  if d.isEnabled job then d.disable job else d

/-- The branch of `coordinateWifiTasks` for an open portal. -/
def coordinatePortal (r : Reads) (d : Device) : Device :=
  let d := d.disableIfEnabled .wifiReconnect
  { d with
    wifi := { d.wifi with
      wifiReconnectPending := false
      wifiLastReconnectResult := "portal_active"
      wifiLastObservedConnected := r.wifiUp } }

/-- The branch of `coordinateWifiTasks` for a radio that is up. -/
def coordinateWifiUp (machines : EntryMachines AppState Event) (r : Reads) (d : Device) : Device :=
  let d := d.noteWifiUp r
  let d := { d with
    wifi := { d.wifi with wifiReconnectPending := false, wifiLastObservedConnected := true } }
  let d := d.disableIfEnabled .wifiReconnect
  if d.appState = .OFFLINE || d.appState = .WIFI_CONNECTING then d.trigger machines .EVT_WIFI_UP
  else d

/-- The branch of `coordinateWifiTasks` for a radio that is down. -/
def coordinateWifiDown (machines : EntryMachines AppState Event) (testEndpoints : Bool) (r : Reads)
    (d : Device) : Device :=
  let d := d.noteWifiDown r
  let d := { d with wifi := { d.wifi with wifiLastObservedConnected := false } }
  let d :=
    if d.appState = .WIFI_CONNECTING || d.appState = .ONLINE then d.trigger machines .EVT_WIFI_DOWN
    else d
  if !d.wifiReconnectAllowedNow testEndpoints r.now then
    let d := d.disableIfEnabled .wifiReconnect
    { d with wifi := { d.wifi with wifiLastReconnectResult := "suppressed" } }
  else if !d.isEnabled .wifiReconnect then d.enable .wifiReconnect
  else d

/-- `coordinateWifiTasks`. -/
def coordinateWifiTasks (machines : EntryMachines AppState Event) (testEndpoints : Bool)
    (r : Reads) (d : Device) : Device :=
  if r.portalActive then d.coordinatePortal r
  else if r.wifiUp then d.coordinateWifiUp machines r
  else d.coordinateWifiDown machines testEndpoints r

/-- `runMqttReconnectTask`. The libraries are asked again by `connectMqtt`. -/
def runMqttReconnectTask (testEndpoints : Bool) (r again : Reads) (connects : Bool) (d : Device) :
    Device :=
  if !r.wifiUp || r.portalActive || !d.networkServicesStarted || !mqttConfigured d.config ||
      !d.mqttReconnectAllowedNow testEndpoints r.now then
    { d with mqtt := { d.mqtt with mqttLastReconnectResult := "not_eligible" } }.disable
      .mqttReconnect
  else if r.mqttConnected then
    { d with mqtt := { d.mqtt with mqttLastReconnectResult := "already_connected" } }.disable
      .mqttReconnect
  else
    let d := { d with
      mqtt := { d.mqtt with
        mqttReconnectAttemptCount := increment d.mqtt.mqttReconnectAttemptCount
        mqttLastReconnectAttemptMs := r.now % 2^32 } }.note .mqttAttempt
    let (d, connected) := d.connectMqtt again connects
    if connected then
      ({ d with
        mqtt := { d.mqtt with
          mqttReconnectSuccessCount := increment d.mqtt.mqttReconnectSuccessCount
          mqttLastReconnectSuccessMs := again.now % 2^32
          mqttLastReconnectResult := "connected" } }.note .mqttSuccess).disable .mqttReconnect
    else { d with mqtt := { d.mqtt with mqttLastReconnectResult := "failed_retry_scheduled" } }

/-- `runMqttTelemetryTask`, with the answer of the client's `publish`. -/
def runMqttTelemetryTask (r again : Reads) (published : Bool) (d : Device) : Device :=
  if !r.mqttConnected then
    { d with mqtt := { d.mqtt with mqttLastTelemetryResult := "not_connected" } }.disable
      .mqttTelemetry
  else
    let d := ({ d with
      mqtt := { d.mqtt with
        mqttTelemetryAttemptCount := increment d.mqtt.mqttTelemetryAttemptCount
        mqttLastTelemetryAttemptMs := r.now % 2^32 } }.note .telemetryAttempt).note
          (.publish d.topics.topicTelemetry)
    if published then
      { d with
        mqtt := { d.mqtt with
          mqttTelemetryPublishCount := increment d.mqtt.mqttTelemetryPublishCount
          mqttLastTelemetryPublishMs := again.now % 2^32
          mqttLastTelemetryResult := "published" } }.note .telemetryPublish
    else { d with mqtt := { d.mqtt with mqttLastTelemetryResult := "publish_failed" } }

/-- `coordinateMqttTasks`. -/
def coordinateMqttTasks (testEndpoints : Bool) (r : Reads) (d : Device) : Device :=
  let eligible := d.networkServicesStarted && r.wifiUp && !r.portalActive && mqttConfigured d.config
  if !eligible then (d.disableIfEnabled .mqttReconnect).disableIfEnabled .mqttTelemetry
  else if r.mqttConnected then
    let d := d.disableIfEnabled .mqttReconnect
    if !d.isEnabled .mqttTelemetry then d.onTask .mqttTelemetry Task.restart else d
  else
    let d := d.disableIfEnabled .mqttTelemetry
    if !d.mqttReconnectAllowedNow testEndpoints r.now then
      let d := d.disableIfEnabled .mqttReconnect
      { d with mqtt := { d.mqtt with mqttLastReconnectResult := "suppressed" } }
    else if !d.isEnabled .mqttReconnect then d.enable .mqttReconnect
    else d

end Device

/-- What the topics of the device begin with. -/
def MQTT_TOPIC_ROOT : String := "lab/proj-esp32"

/-- The topics that `startNetworkServices` sets. -/
def topicsOf (deviceId : String) : Topics where
  topicState := MQTT_TOPIC_ROOT ++ "/" ++ deviceId ++ "/state"
  topicTelemetry := MQTT_TOPIC_ROOT ++ "/" ++ deviceId ++ "/telemetry"
  topicEvents := MQTT_TOPIC_ROOT ++ "/" ++ deviceId ++ "/events"
  topicCommand := MQTT_TOPIC_ROOT ++ "/" ++ deviceId ++ "/cmd"

namespace Device

/-- `startNetworkServices`. -/
def startNetworkServices (r : Reads) (d : Device) : Device :=
  if d.networkServicesStarted || !r.wifiUp || r.portalActive then d
  else
    { d with
      topics := topicsOf d.deviceId, webStarted := true, networkServicesStarted := true }.note
        .startServices

/-- The callback of `setAPCallback`, and the same lines of `loop`. -/
def portalOpened (machines : EntryMachines AppState Event) (d : Device) : Device :=
  if d.appState = .WIFI_CONNECTING then d.trigger machines .EVT_PORTAL_OPEN else d

/-- What follows the scheduler in `loop`. -/
def finishLoop (machines : EntryMachines AppState Event) (r services : Reads) (d : Device) :
    Device :=
  if r.portalActive then d.portalOpened machines
  else
    let d := if d.appState = .CONFIG_PORTAL then d.trigger machines .EVT_CONFIG_DONE else d
    if !r.wifiUp then d else d.startNetworkServices services

/-- The command `mqtt` of the web console, which is there when the services are. -/
def webConnect (r : Reads) (connects : Bool) (d : Device) : Device :=
  if d.webStarted then (d.connectMqtt r connects).1 else d

/-- `POST /api/test/mqtt/disconnect`; what it does to the client is up to the client. -/
def suppressMqtt (now : ℕ) (d : Device) : Device :=
  { d with mqtt := { d.mqtt with mqttReconnectSuppressedUntil := (now + 8000) % 2^32 } }

/-- `POST /api/test/wifi/disconnect`, likewise. -/
def suppressWifi (now : ℕ) (d : Device) : Device :=
  { d with wifi := { d.wifi with wifiReconnectSuppressedUntil := (now + 8000) % 2^32 } }

end Device

/-- What a pass over a task meets. -/
structure Pass where
  /-- The task is due. -/
  due : Bool
  /-- The answers when the libraries are asked at first. -/
  first : Reads
  /-- The answers when the libraries are asked again in the same callback. -/
  again : Reads
  /-- What `WiFi.reconnect`, `connect` or `publish` returns. -/
  succeeds : Bool

/-- The callback of each task. -/
def callback (machines : EntryMachines AppState Event) (testEndpoints : Bool) (p : Pass) :
    Job → Device → Device
  | .wifiCoordinator => Device.coordinateWifiTasks machines testEndpoints p.first
  | .wifiReconnect => Device.runWifiReconnectTask testEndpoints p.first p.again p.succeeds
  | .mqttCoordinator => Device.coordinateMqttTasks testEndpoints p.first
  | .mqttReconnect => Device.runMqttReconnectTask testEndpoints p.first p.again p.succeeds
  | .mqttTelemetry => Device.runMqttTelemetryTask p.first p.again p.succeeds

/-- The scheduler passes over a task. -/
def passTask (machines : EntryMachines AppState Event) (testEndpoints : Bool) (job : Job) (p : Pass)
    (d : Device) : Device :=
  let (task, runs) := (d.tasks job).pass p.due
  let d := { d with tasks := Function.update d.tasks job task }
  if runs then callback machines testEndpoints p job d else d

/-- A call on the connection manager: from the loop, from the scheduler, from the web
server or from a test endpoint. -/
inductive Call where
  /-- `wifiManager.process()`, which may open the portal, and `machine.run_machine()`. -/
  | process (portalOpens : Bool)
  | pass (job : Job) (p : Pass)
  | finishLoop (r services : Reads)
  | webConnect (r : Reads) (connects : Bool)
  | suppressMqtt (now : ℕ)
  | suppressWifi (now : ℕ)

/-- One call. -/
def call (machines : EntryMachines AppState Event) (testEndpoints : Bool) (d : Device) :
    Call → Device
  | .process portalOpens =>
    (if portalOpens then d.portalOpened machines else d).runMachine machines
  | .pass job p => passTask machines testEndpoints job p d
  | .finishLoop r services => d.finishLoop machines r services
  | .webConnect r connects => d.webConnect r connects
  | .suppressMqtt now => if testEndpoints then d.suppressMqtt now else d
  | .suppressWifi now => if testEndpoints then d.suppressWifi now else d

/-- What one iteration of the loop meets. -/
structure Iteration where
  /-- `process` opens the portal. -/
  portalOpens : Bool
  /-- What each task meets. -/
  pass : Job → Pass
  /-- The answers at the end of the loop. -/
  finish : Reads
  /-- The answers when the services are to be started. -/
  services : Reads

/-- The calls of one iteration of `loop`, in order. -/
def loopCalls (i : Iteration) : List Call :=
  [.process i.portalOpens, .pass .wifiCoordinator (i.pass .wifiCoordinator),
    .pass .wifiReconnect (i.pass .wifiReconnect), .pass .mqttCoordinator (i.pass .mqttCoordinator),
    .pass .mqttReconnect (i.pass .mqttReconnect), .pass .mqttTelemetry (i.pass .mqttTelemetry),
    .finishLoop i.finish i.services]

/-- `loop`. -/
def loop (machines : EntryMachines AppState Event) (testEndpoints : Bool) (d : Device)
    (i : Iteration) : Device :=
  TransitionRuns.run (call machines testEndpoints) d (loopCalls i)

/-- What `setup` meets. -/
structure Start where
  /-- `drd->detectDoubleReset()`. -/
  forceConfig : Bool
  /-- `startConfigPortal` or `autoConnect` opens the portal. -/
  portalOpens : Bool
  /-- What `autoConnect` returns. -/
  autoConnects : Bool
  /-- The answers once `autoConnect` has returned. -/
  connected : Reads
  /-- The answers when the services are to be started. -/
  services : Reads

/-- The part of `setup` that concerns the connection. -/
def setup (machines : EntryMachines AppState Event) (s : Start) (deviceId : String)
    (config : MqttConfig) : Device :=
  let d : Device := { deviceId, config }
  let d := d.runMachine machines
  let d := (d.enable .wifiCoordinator).enable .mqttCoordinator
  if s.forceConfig then
    let d := d.trigger machines .EVT_FORCE_CONFIG
    if s.portalOpens then d.portalOpened machines else d
  else
    let d := d.trigger machines .EVT_START_NETWORK
    let d := if s.portalOpens then d.portalOpened machines else d
    if s.autoConnects && s.connected.wifiUp then
      (d.trigger machines .EVT_WIFI_UP).startNetworkServices s.services
    else d

end ProjEsp32.ConnectionManager
