import Mathlib.Logic.Function.Basic
import ProjEsp32.HealthSupervisor
import ProjEsp32.VirtualComponents

/-!
# What the components report

The components with all that they report: a state, and a health with its times, its
error count and its fault code. Each change is posted to the event bus, from which the
subscribers learn it. The supervisor evaluates the components and posts its own state.
-/

namespace ProjEsp32.ComponentReports

open ArduinoText EventDispatch HealthSupervisor MachineEntries TransitionRuns
open RuntimeCore (HealthState)

variable {H S σ : Type}

/-- `RuntimeEventType::ComponentStateChanged`. -/
def ComponentStateChanged : ℕ := 100

/-- `RuntimeEventType::ComponentHealthChanged`. -/
def ComponentHealthChanged : ℕ := 101

/-- `RuntimeEventType::InputValueChanged`. -/
def InputValueChanged : ℕ := 200

/-- `RuntimeEventType::RuleEvaluated`. -/
def RuleEvaluated : ℕ := 201

/-- The number of a health, as it is posted. -/
def healthValue : HealthState → ℤ
  | .Ok => 0
  | .Degraded => 1
  | .Fault => 2
  | .Recovering => 3
  | .Disabled => 4

/-- `ComponentHealth`. -/
structure ComponentHealth where
  /-- The health itself. -/
  state : HealthState := .Disabled
  /-- When it was `Ok` last. -/
  lastSuccessMs : ℕ := 0
  /-- When it became an error last. -/
  lastErrorMs : ℕ := 0
  /-- How often it has become one. -/
  errorCount : ℕ := 0
  /-- The text that tells the fault. -/
  faultCode : String := ""
  deriving DecidableEq

/-- A state and a health. -/
structure Component (σ : Type) where
  /-- The state of the component's own kind. -/
  state : σ
  /-- What it reports of its health. -/
  health : ComponentHealth := {}
  deriving DecidableEq

/-- What the components differ in when they change. -/
structure Kind (σ : Type) where
  /-- The name that its posts bear. -/
  id : String
  /-- The number of a state, as it is posted. -/
  stateValue : σ → ℤ
  /-- The health that is counted as an error when it is new. -/
  isError : HealthState → Bool

namespace Component

variable [DecidableEq σ]

/-- The health after a change: its times, and its errors. -/
def healthAfter (kind : Kind σ) (now : ℕ) (nextHealth : HealthState) (faultCode : String)
    (c : Component σ) : ComponentHealth :=
  let healthChanged := nextHealth != c.health.state || faultCode != c.health.faultCode
  let health := { c.health with state := nextHealth, faultCode := faultCode }
  if nextHealth = .Ok then { health with lastSuccessMs := now % 2^32 }
  else if healthChanged && kind.isError nextHealth then
    { health with
      lastErrorMs := now % 2^32, errorCount := (c.health.errorCount + 1) % 2^32 }
  else health

/-- The posts of a change: of the state, and then of the health. -/
def posts (kind : Kind σ) (now : ℕ) (nextState : σ) (nextHealth : HealthState) (faultCode : String)
    (c : Component σ) : List Post :=
  (if nextState != c.state then
    [⟨ComponentStateChanged, some kind.id, kind.stateValue nextState, now % 2^32⟩] else []) ++
  if nextHealth != c.health.state || faultCode != c.health.faultCode then
    [⟨ComponentHealthChanged, some kind.id, healthValue nextHealth, now % 2^32⟩] else []

/-- `transitionTo`, with the calls of `post` that it makes. -/
def transitionTo (kind : Kind σ) (now : ℕ) (nextState : σ) (nextHealth : HealthState)
    (faultCode : String) (c : Component σ) : Component σ × List Post :=
  let nextFault := cString faultCode
  ({ state := nextState, health := c.healthAfter kind now nextHealth nextFault },
    c.posts kind now nextState nextHealth nextFault)

end Component

namespace Connectivity

/-- The states of the connectivity. -/
inductive State where
  | Starting
  | Offline
  | WifiOnly
  | Online
  deriving DecidableEq

/-- The number of a state. -/
def State.value : State → ℤ
  | .Starting => 0
  | .Offline => 1
  | .WifiOnly => 2
  | .Online => 3

/-- Every new health but `Ok` is counted as an error. -/
def kind : Kind State where
  id := "connectivity"
  stateValue := State.value
  isError health := health != .Ok

/-- The component after `begin`, which posts nothing. -/
def begun : Component State where
  state := .Starting
  health := { state := .Recovering, faultCode := "starting" }

/-- `ConnectivityComponent::transitionTo`. -/
def transitionTo (now : ℕ) (nextState : State) (nextHealth : HealthState) (faultCode : String)
    (c : Component State) : Component State × List Post :=
  c.transitionTo kind now nextState nextHealth faultCode

/-- `sample`, with the answers of its three providers. -/
def sample (now : ℕ) (wifiUp configured mqttUp : Bool) (c : Component State) :
    Component State × List Post :=
  if !wifiUp then transitionTo now .Offline .Degraded "wifi_disconnected" c
  else if !configured then transitionTo now .WifiOnly .Degraded "mqtt_not_configured" c
  else if !mqttUp then transitionTo now .WifiOnly .Degraded "mqtt_disconnected" c
  else transitionTo now .Online .Ok "" c

end Connectivity

/-- The numbers of the states of an input. -/
def inputValue : VirtualComponents.VirtualInput.State → ℤ
  | .Disabled => 0
  | .Ready => 1
  | .Fault => 2

/-- The numbers of the states of an actuator. -/
def actuatorValue : VirtualComponents.VirtualActuator.State → ℤ
  | .Disabled => 0
  | .Off => 1
  | .On => 2

/-- A new health of a virtual component is an error unless it is `Ok` or `Disabled`. -/
def isVirtualError (health : HealthState) : Bool := health != .Ok && health != .Disabled

/-- The virtual input, without its value. -/
structure Input where
  /-- The state and the health. -/
  component : Component VirtualComponents.VirtualInput.State := { state := .Disabled }
  /-- A value has been set and not been taken back. -/
  hasValue : Bool := false

namespace Input

/-- How the virtual input posts and counts. -/
def kind : Kind VirtualComponents.VirtualInput.State where
  id := VirtualComponents.TEMPERATURE_ID
  stateValue := inputValue
  isError := isVirtualError

/-- `VirtualInputComponent::transitionTo`. -/
def transitionTo (now : ℕ) (nextState : VirtualComponents.VirtualInput.State)
    (nextHealth : HealthState) (faultCode : String) (input : Input) : Input × List Post :=
  let changed := input.component.transitionTo kind now nextState nextHealth faultCode
  ({ input with component := changed.1 }, changed.2)

/-- `setValue`, with the value in thousandths; none for one that is not finite. -/
def setValue (now : ℕ) (milliValue : Option ℤ) (input : Input) : Input × List Post :=
  match milliValue with
  | none => (input, [])
  | some milliValue =>
    let changed := transitionTo now .Ready .Ok "" { input with hasValue := true }
    (changed.1, changed.2 ++ [⟨InputValueChanged, some kind.id, milliValue, now % 2^32⟩])

/-- `injectFault`. -/
def injectFault (now : ℕ) (faultCode : String) (input : Input) : Input × List Post :=
  let code := trim (cString faultCode)
  transitionTo now .Fault .Fault (if code.length == 0 then "virtual_fault" else code) input

/-- `recover`. -/
def recover (now : ℕ) (input : Input) : Input × List Post :=
  if input.hasValue then transitionTo now .Ready .Ok "" input
  else transitionTo now .Disabled .Disabled "" input

/-- `disable`. -/
def disable (now : ℕ) (input : Input) : Input × List Post :=
  transitionTo now .Disabled .Disabled "" { input with hasValue := false }

end Input

/-- The two actuators. -/
inductive Output where
  | heater
  | scheduleOutput
  deriving DecidableEq

namespace Actuator

/-- The state of an actuator. -/
abbrev State : Type := VirtualComponents.VirtualActuator.State

/-- How the virtual outputs post and count. -/
def kind : Output → Kind State
  | .heater => { id := VirtualComponents.HEATER_ID, stateValue := actuatorValue,
                 isError := isVirtualError }
  | .scheduleOutput => { id := "virtual.schedule_output", stateValue := actuatorValue,
                         isError := isVirtualError }

/-- `VirtualActuatorComponent::transitionTo`. -/
def transitionTo (output : Output) (now : ℕ) (nextState : State) (nextHealth : HealthState)
    (faultCode : String) (c : Component State) : Component State × List Post :=
  c.transitionTo (kind output) now nextState nextHealth faultCode

/-- The state that is asked for. -/
def desired (on : Bool) : State := if on then .On else .Off

/-- `enable`. -/
def enable (output : Output) (now : ℕ) (initialOn : Bool) (c : Component State) :
    Component State × List Post :=
  transitionTo output now (desired initialOn) .Ok "" c

/-- `disable`. -/
def disable (output : Output) (now : ℕ) (c : Component State) : Component State × List Post :=
  transitionTo output now .Disabled .Disabled "" c

/-- `applyDesired`: an actuator that is disabled refuses. -/
def applyDesired (output : Output) (now : ℕ) (desiredOn : Bool) (c : Component State) :
    Component State × List Post :=
  if c.state = .Disabled then (c, []) else transitionTo output now (desired desiredOn) .Ok "" c

end Actuator

/-- The components, their supervisor, and the bus with what its subscribers keep. -/
structure Platform (H S : Type) where
  /-- The connectivity component. -/
  connectivity : Component Connectivity.State := Connectivity.begun
  /-- The virtual input. -/
  temperature : Input := {}
  /-- The two actuators. -/
  outputs : Output → Component Actuator.State := fun _ => { state := .Disabled }
  /-- The supervisor of them all. -/
  supervisor : Supervisor := {}
  /-- The bus, and what its handlers change. -/
  world : World H S
  /-- Every call of `post` so far; nothing reads them. -/
  posts : List Post := []

namespace Platform

/-- The posts of a call, in order. -/
def send (posts : List Post) (p : Platform H S) : Platform H S :=
  { p with
    world := posts.foldl (fun w post => (w.post post).1) p.world
    posts := p.posts ++ posts }

/-- The components, in the order in which `setup` adds them. -/
def components (p : Platform H S) : List RegisteredComponent :=
  [⟨Connectivity.kind.id, p.connectivity.health.state⟩,
    ⟨Input.kind.id, p.temperature.component.health.state⟩,
    ⟨(Actuator.kind .heater).id, (p.outputs .heater).health.state⟩,
    ⟨(Actuator.kind .scheduleOutput).id, (p.outputs .scheduleOutput).health.state⟩]

/-- The registry to which they are added. -/
def registry (p : Platform H S) : ComponentRegistry :=
  p.components.foldl (fun registry component => (registry.add component).1) .empty

/-- The supervisor after a call, whose new posts are sent. -/
def supervise (after : Supervisor) (p : Platform H S) : Platform H S :=
  { p with supervisor := after }.send (after.posts.drop p.supervisor.posts.length)

/-- An actuator after a call. -/
def setOutput (output : Output) (changed : Component Actuator.State × List Post)
    (p : Platform H S) : Platform H S :=
  { p with outputs := Function.update p.outputs output changed.1 }.send changed.2

/-- The input after a call. -/
def setInput (changed : Input × List Post) (p : Platform H S) : Platform H S :=
  { p with temperature := changed.1 }.send changed.2

end Platform

/-- A call on the platform, with `millis()` and what else the call reads. -/
inductive Label (H : Type) where
  | sample (now : ℕ) (wifiUp configured mqttUp : Bool)
  | setValue (now : ℕ) (milliValue : Option ℤ)
  | injectFault (now : ℕ) (faultCode : String)
  | recover (now : ℕ)
  | disableInput (now : ℕ)
  | enable (output : Output) (now : ℕ) (initialOn : Bool)
  | disable (output : Output) (now : ℕ)
  | applyDesired (output : Output) (now : ℕ) (desiredOn : Bool)
  | beginSupervisor (now : ℕ)
  | evaluate (now : ℕ)
  /-- The rule engine posts a decision of a rule. -/
  | ruleEvaluated (now : ℕ) (id : String) (decision : ℤ)
  | subscribe (handler : Option H)
  | process (maxEvents : ℕ)

/-- One call. The handlers post nothing; what they do to the rest of the device is a
parameter. -/
def step [DecidableEq H] (machines : EntryMachines SupervisorState EventId)
    (react : H → Event → S → S) (p : Platform H S) : Label H → Platform H S
  | .sample now wifiUp configured mqttUp =>
    let changed := Connectivity.sample now wifiUp configured mqttUp p.connectivity
    { p with connectivity := changed.1 }.send changed.2
  | .setValue now milliValue => p.setInput (p.temperature.setValue now milliValue)
  | .injectFault now faultCode => p.setInput (p.temperature.injectFault now faultCode)
  | .recover now => p.setInput (p.temperature.recover now)
  | .disableInput now => p.setInput (p.temperature.disable now)
  | .enable output now initialOn =>
    p.setOutput output (Actuator.enable output now initialOn (p.outputs output))
  | .disable output now => p.setOutput output (Actuator.disable output now (p.outputs output))
  | .applyDesired output now desiredOn =>
    p.setOutput output (Actuator.applyDesired output now desiredOn (p.outputs output))
  | .beginSupervisor now => p.supervise (p.supervisor.begin machines now)
  | .evaluate now => p.supervise (p.supervisor.evaluate machines now p.registry)
  | .ruleEvaluated now id decision =>
    p.send [⟨RuleEvaluated, some id, decision, now % 2^32⟩]
  | .subscribe handler => { p with world := (p.world.subscribe handler).1 }
  | .process maxEvents =>
    { p with
      world := (p.world.process (fun h e s => .done (react h e s)) maxEvents).1 }

/-- The platform as `setup` leaves it, with the components begun. -/
def boot (state : S) : Platform H S where
  world := { state }

end ProjEsp32.ComponentReports
