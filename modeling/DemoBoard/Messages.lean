import DemoBoard.MessageBroker

namespace DemoBoard

/-!
# Messages

The message categories of `utility/scheduler/Message.h` and the message ids
of the categories that the presentation controller and the BLE context
handle.
-/

/-! ## `MessageBroker_Category_t` -/

namespace Category

def timeInformation : UInt16 := 0x01
def buttonEvent : UInt16 := 0x02
def sensorValue : UInt16 := 0x04
def systemStateChange : UInt16 := 0x08
def bleEvent : UInt16 := 0x10
def batteryEvent : UInt16 := 0x20

end Category

/-- `MessageId_TimeInfo_t` -/
def timeInfoTimeElapsed : UInt8 := 1

/-! ## `MessageId_StateChange_t` -/

namespace StateChange

def peripheralsInitialized : UInt8 := 2
def readoutIntervalChange : UInt8 := 3
def deviceSettingsRead : UInt8 := 5
def deviceSettingsChanged : UInt8 := 6
def bleSubsystemOff : UInt8 := 7
def bleSubsystemOn : UInt8 := 8

end StateChange

/-! ## `BLE_INTERFACE_MSG_ID_t` -/

namespace BleInterface

def startAdvertise : UInt8 := 0
def stopAdvertise : UInt8 := 1
def disconnect : UInt8 := 2
def svcReqResponse : UInt8 := 3
def txPoolAvailable : UInt8 := 4
def updateDeviceSettings : UInt8 := 5
def askUserAcceptPairing : UInt8 := 6
def userAcceptedPairing : UInt8 := 7
def pairingTimeout : UInt8 := 8
def bleOff : UInt8 := 9

end BleInterface

/-! ## `Button_Event_t` -/

namespace ButtonEvent

def shortPress : UInt8 := 0
def longPress : UInt8 := 1
def doubleClick : UInt8 := 2

end ButtonEvent

/-- `SHT4X_MESSAGE_ID_SENSOR_DATA` -/
def sensorDataId : UInt8 := 2

/-- `SHT4X_COMMAND_READ_SERIAL_NUMBER` -/
def readSerialNumber : UInt8 := 0

/-- `BATTERY_MONITOR_MESSAGE_ID_STATE_CHANGE` -/
def batteryStateChange : UInt8 := 1

/-- `BATTERY_MONITOR_MESSAGE_ID_CAPACITY_CHANGE` -/
def batteryCapacityChange : UInt8 := 2

/-! ## `BatteryMonitor_AppState_t` -/

namespace BatteryState

def undefined : UInt8 := 0
def noRestriction : UInt8 := 1
def reducedOperation : UInt8 := 2
def criticalBatteryLevel : UInt8 := 3

end BatteryState

/-- The `currentState` of a `BatteryMonitor_Message_t`. -/
def Message.currentState (message : Message) : UInt8 :=
  message.parameter2.toUInt8

/-- `SHORT_READOUT_INTERVAL_S` -/
def shortReadoutIntervalSeconds : UInt8 := 1

/-- `MEDIUM_READOUT_INTERVAL_S` -/
def mediumReadoutIntervalSeconds : UInt8 := 2

/-- `LONG_READOUT_INTERVAL_S` -/
def longReadoutIntervalSeconds : UInt8 := 5

/-- A message and the broker that it is published to. -/
inductive Publication where
  | app (message : Message)
  | ble (message : Message)
  deriving Repr, DecidableEq

end DemoBoard
