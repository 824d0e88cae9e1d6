import ProjEsp32.ArduinoJson
import ProjEsp32.RuntimeCore

/-!
# Virtual components

The virtual temperature input and the virtual heater, as far as the rules see
them. Every change goes through `transitionTo` of the runtime core.
-/

namespace ProjEsp32.VirtualComponents

open ArduinoJson ArduinoText RuntimeCore

variable {α H : Type}

/-- The input that the runtime depends on, `virtual.temperature`. -/
def TEMPERATURE_ID : String := "virtual.temperature"

/-- The output that a rule acts on, `virtual.heater`. -/
def HEATER_ID : String := "virtual.heater"

namespace VirtualInput

/-- The states of the virtual input. -/
inductive State where
  | Disabled
  | Ready
  | Fault
  deriving DecidableEq

end VirtualInput

/-- The virtual input. -/
structure VirtualInput (α : Type) [Zero α] where
  /-- The state and the health. -/
  component : Component VirtualInput.State := { state := .Disabled }
  /-- A value has been set and not been taken back. -/
  hasValue : Bool := false
  /-- That value. -/
  value : CFloat α := .finite 0

namespace VirtualInput

variable [Zero α]

/-- `health().state`. -/
def health (input : VirtualInput α) : HealthState := input.component.health.state

/-- `transitionTo` of the input. -/
def transitionTo (nextState : State) (nextHealth : HealthState) (faultCode : String)
    (input : VirtualInput α) (bus : EventBus H) : VirtualInput α × EventBus H :=
  let changed :=
    RuntimeCore.transitionTo TEMPERATURE_ID nextState nextHealth faultCode input.component bus
  ({ input with component := changed.1 }, changed.2)

/-- `begin`. -/
def begin (input : VirtualInput α) : VirtualInput α :=
  { input with component := { state := .Disabled }, hasValue := false }

/-- `setValue`: a value that is not finite is refused. -/
def setValue (value : CFloat α) (input : VirtualInput α) (bus : EventBus H) :
    VirtualInput α × EventBus H :=
  if !value.isfinite then (input, bus)
  else
    let changed := transitionTo .Ready .Ok "" { input with value, hasValue := true } bus
    (changed.1, changed.2.post .InputValueChanged TEMPERATURE_ID)

/-- `injectFault`, with a code for a code that is empty. -/
def injectFault (faultCode : String) (input : VirtualInput α) (bus : EventBus H) :
    VirtualInput α × EventBus H :=
  let code := trim (cString faultCode)
  transitionTo .Fault .Fault (if code.length == 0 then "virtual_fault" else code) input bus

/-- `recover`: to the last value, if there is one. -/
def recover (input : VirtualInput α) (bus : EventBus H) : VirtualInput α × EventBus H :=
  if input.hasValue then transitionTo .Ready .Ok "" input bus
  else transitionTo .Disabled .Disabled "" input bus

/-- `disable`. -/
def disable (input : VirtualInput α) (bus : EventBus H) : VirtualInput α × EventBus H :=
  transitionTo .Disabled .Disabled "" { input with hasValue := false } bus

end VirtualInput

namespace VirtualActuator

/-- The states of a virtual actuator. -/
inductive State where
  | Disabled
  | Off
  | On
  deriving DecidableEq

end VirtualActuator

/-- The virtual actuator. -/
structure VirtualActuator where
  /-- The state and the health. -/
  component : Component VirtualActuator.State := { state := .Disabled }
  deriving DecidableEq

namespace VirtualActuator

/-- `enabled`. -/
def isEnabled (actuator : VirtualActuator) : Bool := actuator.component.state != .Disabled

/-- `isOn`. -/
def isOn (actuator : VirtualActuator) : Bool := actuator.component.state == .On

/-- `transitionTo` of the actuator. -/
def transitionTo (id : String) (nextState : State) (nextHealth : HealthState) (faultCode : String)
    (actuator : VirtualActuator) (bus : EventBus H) : VirtualActuator × EventBus H :=
  let changed := RuntimeCore.transitionTo id nextState nextHealth faultCode actuator.component bus
  ({ component := changed.1 }, changed.2)

/-- The state of an output that is to be on or off. -/
def desiredState (desiredOn : Bool) : State := if desiredOn then .On else .Off

/-- `enable`. -/
def enable (id : String) (initialOn : Bool) (actuator : VirtualActuator) (bus : EventBus H) :
    VirtualActuator × EventBus H :=
  transitionTo id (desiredState initialOn) .Ok "" actuator bus

/-- `applyDesired`: an actuator that is disabled refuses. -/
def applyDesired (id : String) (desiredOn : Bool) (actuator : VirtualActuator) (bus : EventBus H) :
    (VirtualActuator × EventBus H) × Bool :=
  if !actuator.isEnabled then ((actuator, bus), false)
  else (transitionTo id (desiredState desiredOn) .Ok "" actuator bus, true)

end VirtualActuator

end ProjEsp32.VirtualComponents
