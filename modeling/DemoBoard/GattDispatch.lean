import DemoBoard.GattServices
import Mathlib.Data.List.Basic

namespace DemoBoard.GattServices

/-!
# Dispatch of GATT events

The handlers look for the handle of every GATT event in their tables, whatever
the event is about.  An attribute server that is addressed by characteristics
instead of handles says what is meant to happen.
-/

/-! ## The attribute server -/

/-- The request that comes with an event. -/
def CoreEvent.clientRequest (event : CoreEvent) : ClientRequest where
  connectionHandle := event.connectionHandle
  data := event.attrData
  dataLength := event.attrDataLength.toUInt8

/-- What the device does when a value is written. -/
def written (services : Services) (event : CoreEvent) :
    Characteristic → Handled
  | .reboot =>
      (services,
        [.systemReset (bytes event.attrData event.attrDataLength.toNat)])
  | .loggingInterval => writeLoggingInterval services event.clientRequest
  | .requestSamples => writeRequestedSamples services event.clientRequest
  | .alternativeDeviceName =>
      writeAlternativeDeviceName services event.clientRequest
  | .isLogEnabled => writeIsLogEnabled services event.clientRequest
  | .isAdvertiseDataEnabled =>
      writeIsAdvertiseDataEnabled services event.clientRequest
  | .availableSamples => (services, [])
  | .sampleData => (services, [])
  | .version => (services, [])

variable {handles : Handles} {services : Services} {event : CoreEvent}

/-- The attributes of different characteristics have different handles. -/
theorem Handles.Assigned.apart
    (assigned : handles.Assigned)
    {first second : Characteristic}
    (different : first ≠ second) :
    Apart (handles.characteristic first) (handles.characteristic second)
      first.attributes second.attributes := by
  by_cases same : first.service = second.service
  · exact assigned.characteristics first second different same
  · have services := assigned.services _ _ same
    have one := assigned.inside first
    have two := assigned.inside second
    rw [Apart] at services ⊢
    omega

/-- `NVIC_SystemReset` does not return. -/
def Effect.isReset : Effect → Bool
  | .systemReset _ => true
  | _ => false

end DemoBoard.GattServices
