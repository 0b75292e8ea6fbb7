import DemoBoard.BleSubsystem
import DemoBoard.ByteMemory
import DemoBoard.TransitionRuns
import DemoBoard.TypedFields

namespace DemoBoard

open ByteMemory

/-!
# Advertisement data

Model of the advertisement data of `app/BleContext.c` and of the buffers that
`BleGap_AdvertiseRequest` hands to the radio, on top of the BLE subsystem.  A
receiver that reads the buffers as fields finds in them what the BLE task
heard last.
-/

/-- `BLE_TYPES_LOCAL_NAME_LENGTH` -/
def localNameLength : Nat := 8

/-- `BleTypes_CompleteAdvertisementData_t` -/
structure CompleteAdvertisementData where
  adTypeSize : UInt8
  adTypeFlag : UInt8
  adTypeValue : UInt8
  adTypeNameSize : UInt8
  adTypeNameFlag : UInt8
  name : List Byte
  name_length : name.length = localNameLength
  adTypeManufacturerSize : UInt8
  adTypeManufacturerFlag : UInt8
  companyIdentifier : UInt16
  sAdvT : UInt8
  sampleType : UInt8
  deviceIdMsb : UInt8
  deviceIdLsb : UInt8
  temperatureTicks : UInt16
  humidityTicks : UInt16

namespace CompleteAdvertisementData

/-- The packed structure in memory. -/
def toBytes (data : CompleteAdvertisementData) : List Byte :=
  [data.adTypeSize, data.adTypeFlag, data.adTypeValue, data.adTypeNameSize,
      data.adTypeNameFlag] ++
    data.name ++
    [data.adTypeManufacturerSize, data.adTypeManufacturerFlag] ++
    leBytes 2 data.companyIdentifier.toNat ++
    [data.sAdvT, data.sampleType, data.deviceIdMsb, data.deviceIdLsb] ++
    leBytes 2 data.temperatureTicks.toNat ++
    leBytes 2 data.humidityTicks.toNat

/-- `sizeof(gCompleteAdvData)` and `LONG_ADV_DATA_LENGTH` -/
def longLength : Nat := 25

/-- `SHORT_ADV_DATA_LENGTH` -/
def shortLength : Nat := longLength - 4

/-- `LONG_MANUFACTURER_DATA_LENGTH` -/
def longManufacturerLength : UInt8 := 11

/-- `SHORT_MANUFACTURER_DATA_LENGTH` -/
def shortManufacturerLength : UInt8 := 7

/-- `SHT43 DB` of `ProductionParameters_GetDeviceName` -/
def deviceName : List Byte :=
  [0x53, 0x48, 0x54, 0x34, 0x33, 0x20, 0x44, 0x42]

/-- `gCompleteAdvData` after `BleContext_StartBluetoothApp` -/
def started (uniqueDeviceId : UInt32) : CompleteAdvertisementData where
  adTypeSize := 2
  adTypeFlag := 0x01
  adTypeValue := 0x06
  adTypeNameSize := 9
  adTypeNameFlag := 0x09
  name := deviceName
  name_length := rfl
  adTypeManufacturerSize := longManufacturerLength
  adTypeManufacturerFlag := 0xFF
  companyIdentifier := 0x06D5
  sAdvT := 0x00
  sampleType := 0x06
  deviceIdMsb := (uniqueDeviceId.toUInt16 >>> 8).toUInt8
  deviceIdLsb := uniqueDeviceId.toUInt16.toUInt8
  temperatureTicks := 0xFFFF
  humidityTicks := 0xFFFF

end CompleteAdvertisementData

/-- What the BLE task heard about the advertisement. -/
inductive Heard where
  | measurement (temperatureTicks humidityTicks : UInt16)
  | advertiseData (enabled : Bool)
  deriving Repr, DecidableEq

/-- A buffer for `aci_gap_update_adv_data`, and what was heard before. -/
structure Handover where
  heard : List Heard
  buffer : List Byte

/-- The BLE subsystem with its advertisement data. -/
structure AdvertisedBle where
  ble : BleSubsystem
  /-- `gCompleteAdvData` -/
  data : CompleteAdvertisementData
  /-- `advertisementDataSize` of `gBleApplicationContext` -/
  advertisementDataSize : Nat
  heard : List Heard
  handed : List Handover

namespace AdvertisedBle

/-- `SERVICE_REQUEST_MESSAGE_ID_SET_ADVERTISE_DATA_ENABLE` -/
def setAdvertiseDataEnable : UInt8 := 8

/-- `temperatureTicks` of a `Sht4x_SensorMessage_t` -/
def temperatureTicks (message : Message) : UInt16 :=
  message.parameter2.toUInt16

/-- `humidityTicks` of a `Sht4x_SensorMessage_t` -/
def humidityTicks (message : Message) : UInt16 :=
  (message.parameter2 >>> 16).toUInt16

/-- `UpdateAdvertiseSamplesEnable` -/
def updateAdvertiseSamplesEnable (state : AdvertisedBle) (enabled : Bool) :
    AdvertisedBle :=
  if enabled then
    { state with
      advertisementDataSize := CompleteAdvertisementData.longLength
      data :=
        { state.data with
          adTypeManufacturerSize :=
            CompleteAdvertisementData.longManufacturerLength
          sAdvT := 0x00
          sampleType := 0x06 } }
  else
    { state with
      advertisementDataSize := CompleteAdvertisementData.shortLength
      data :=
        { state.data with
          adTypeManufacturerSize :=
            CompleteAdvertisementData.shortManufacturerLength
          sAdvT := 0xFF
          sampleType := 0x00 } }

/--
What `BleDefaultStateCb` does to the advertisement data.  The settings of a
`BLE_INTERFACE_MSG_ID_UPDATE_DEVICE_SETTINGS` are behind a pointer.
-/
def hear
    (state : AdvertisedBle) (message : Message)
    (isAdvertiseDataEnabled : Bool) : AdvertisedBle :=
  if message.category = Category.sensorValue ∧
      message.id = sensorDataId ∧ message.parameter1 ≠ readSerialNumber then
    { state with
      data :=
        { state.data with
          temperatureTicks := temperatureTicks message
          humidityTicks := humidityTicks message }
      heard := state.heard ++
        [.measurement (temperatureTicks message) (humidityTicks message)] }
  else if message.category = Category.bleEvent ∧
      message.id = BleInterface.svcReqResponse ∧
      message.parameter1 = setAdvertiseDataEnable then
    { state.updateAdvertiseSamplesEnable (message.parameter2 ≠ 0) with
      heard :=
        state.heard ++ [.advertiseData (message.parameter2 ≠ 0)] }
  else if message.category = Category.bleEvent ∧
      message.id = BleInterface.updateDeviceSettings then
    { state.updateAdvertiseSamplesEnable isAdvertiseDataEnabled with
      heard := state.heard ++ [.advertiseData isAdvertiseDataEnabled] }
  else
    state

/-- The message makes the handler call `BleGap_AdvertiseRequest`. -/
def requestsAdvertising (ble : BleSubsystem) (message : Message) : Bool :=
  match ble.handler with
  | .bleDefaultState =>
      (message.category = Category.sensorValue ∧
          message.id = sensorDataId ∧
          message.parameter1 ≠ readSerialNumber) ∨
        (message.category = Category.bleEvent ∧
          message.id = BleInterface.startAdvertise)
  | .bleDisabledState =>
      BleSubsystem.isLongPress message ∧
        ble.gap.context.currentApplicationState ≠
          BatteryState.criticalBatteryLevel

/-- The end of `BleGap_AdvertiseRequest`. -/
def handOver (state : AdvertisedBle) : AdvertisedBle :=
  if state.ble.gap.context.deviceConnectionStatus = .advertising then
    { state with
      handed := state.handed ++
        [{ heard := state.heard
           buffer :=
             state.data.toBytes.take state.advertisementDataSize }] }
  else
    state

/-- What a message does to the advertisement data. -/
def listen
    (state : AdvertisedBle) (message : Message)
    (isAdvertiseDataEnabled : Bool) : AdvertisedBle :=
  match state.ble.handler with
  | .bleDefaultState => state.hear message isAdvertiseDataEnabled
  | .bleDisabledState => state

/-- The call of `currentMessageHandlerCb` of `_bleAppListener`. -/
def handleBleMessage
    (state : AdvertisedBle) (answers : Answers)
    (isAdvertiseDataEnabled : Bool) (message : Message) :
    AdvertisedBle :=
  let ble := (state.ble.handleBleMessage answers message).ble
  if BleSubsystem.appListenerMask &&& message.category = 0 then
    { state with ble := ble }
  else
    let heard := state.listen message isAdvertiseDataEnabled
    if requestsAdvertising state.ble message then
      { heard with ble := ble }.handOver
    else
      { heard with ble := ble }

/-- What can happen to the BLE subsystem. -/
inductive Event where
  | app (message : Message)
  | publish (message : Message)
  /-- The BLE task handles a message, with the settings that it points to. -/
  | dispatch (answers : Answers) (isAdvertiseDataEnabled : Bool)
  | connect (handle : UInt16)
  | disconnect (answers : Answers)
  deriving Repr, DecidableEq

/-- A step of the BLE subsystem and what it does to the advertisement. -/
def step (state : AdvertisedBle) : Event → Option AdvertisedBle
  | .app message =>
      some { state with ble := state.ble.receiveAppMessage message }
  | .publish message =>
      some { state with ble := state.ble.publishBleMessage message }
  | .dispatch answers isAdvertiseDataEnabled =>
      match state.ble.queue.dequeue.2 with
      | none => some state
      | some message =>
          some
            ({ state with
                ble :=
                  { state.ble with
                    queue := state.ble.queue.dequeue.1 } }.handleBleMessage
              answers isAdvertiseDataEnabled message)
  | .connect handle =>
      (state.ble.step (.connect handle)).map fun ble =>
        { state with ble := ble }
  | .disconnect answers =>
      (state.ble.step (.disconnect answers)).map fun ble =>
        { state with ble := ble }.handOver

/-- The event without the advertisement. -/
def Event.toBle : Event → BleSubsystem.Event
  | .app message => .app message
  | .publish message => .publish message
  | .dispatch answers _ => .dispatch answers
  | .connect handle => .connect handle
  | .disconnect answers => .disconnect answers

theorem handOver_ble (state : AdvertisedBle) :
    state.handOver.ble = state.ble := by
  unfold handOver
  split <;> rfl

theorem handleBleMessage_ble
    (state : AdvertisedBle)
    (answers : Answers)
    (isAdvertiseDataEnabled : Bool)
    (message : Message) :
    (state.handleBleMessage answers isAdvertiseDataEnabled message).ble =
      (state.ble.handleBleMessage answers message).ble := by
  unfold handleBleMessage
  dsimp only
  split
  · rfl
  · split
    · exact handOver_ble _
    · rfl

/-- The advertisement goes along with the steps of the BLE subsystem. -/
theorem step_ble
    {state next : AdvertisedBle}
    {event : Event}
    (moves : state.step event = some next) :
    state.ble.step event.toBle = some next.ble := by
  cases event with
  | app message =>
      cases moves
      rfl
  | publish message =>
      cases moves
      rfl
  | dispatch answers isAdvertiseDataEnabled =>
      simp only [step] at moves
      simp only [Event.toBle, BleSubsystem.step,
        BleSubsystem.runBleMessageDispatch]
      cases taken : state.ble.queue.dequeue.2 with
      | none =>
          simp only [taken] at moves
          cases moves
          rfl
      | some message =>
          simp only [taken] at moves
          cases moves
          simp only [handleBleMessage_ble]
  | connect handle =>
      obtain ⟨ble, connected, rfl⟩ := Option.map_eq_some_iff.mp moves
      exact connected
  | disconnect answers =>
      obtain ⟨ble, disconnected, rfl⟩ := Option.map_eq_some_iff.mp moves
      rw [handOver_ble]
      exact disconnected

/-- After `BleContext_StartBluetoothApp`. -/
def started (uniqueDeviceId : UInt32) : AdvertisedBle where
  ble := BleSubsystem.started
  data := CompleteAdvertisementData.started uniqueDeviceId
  advertisementDataSize := CompleteAdvertisementData.longLength
  heard := []
  handed := []

/-- The system from the start on. -/
def system (uniqueDeviceId : UInt32) :
    TransitionRuns.System AdvertisedBle Event :=
  .ofStep (started uniqueDeviceId) step

end AdvertisedBle

end DemoBoard
