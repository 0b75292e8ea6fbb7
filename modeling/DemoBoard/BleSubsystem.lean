import DemoBoard.BleGap

namespace DemoBoard

/-!
# BLE subsystem

Model of the bridge, the two state handlers and the connection events of
`app/BleContext.c`, with the message queue of the BLE task.  Handlers that
only update characteristics or the sample download are left out.
-/

/-- The values of `currentMessageHandlerCb` of `_bleAppListener`. -/
inductive BleHandler where
  | bleDefaultState
  | bleDisabledState
  deriving Repr, DecidableEq

/-- The state of the BLE subsystem. -/
structure BleSubsystem where
  gap : BleGap
  /-- `_bleAppListener` -/
  handler : BleHandler
  /-- The `receiveMask` of `_bleBridge`. -/
  bridgeMask : UInt16
  /-- The queue of `_bleMessageBroker`. -/
  queue : CyclicBuffer Message

/-- The state after a message, and what went to the application's broker. -/
structure BleOutcome where
  ble : BleSubsystem
  published : List Message

namespace BleSubsystem

/-- The `receiveMask` of `_bleBridge` while the radio may be used. -/
def fullBridgeMask : UInt16 :=
  Category.sensorValue ||| Category.batteryEvent ||| Category.buttonEvent |||
    Category.systemStateChange ||| Category.timeInformation

/-- The `receiveMask` of `_bleBridge` after `SwitchBleOff`. -/
def offBridgeMask : UInt16 :=
  Category.buttonEvent ||| Category.batteryEvent

/-- The `receiveMask` of `_bleAppListener`. -/
def appListenerMask : UInt16 :=
  Category.sensorValue ||| Category.bleEvent ||| Category.batteryEvent |||
    Category.buttonEvent ||| Category.timeInformation

/-- The mode that `gBleApplicationContext` starts with. -/
def shortMode : AdvertisementMode where
  connectable := true
  interval := .short

/-- After `BleContext_StartBluetoothApp`. -/
def started : BleSubsystem where
  gap :=
    { context :=
        { connectionHandle := 0xFFFF
          deviceConnectionStatus := .idle
          timeRunningSeconds := 0
          automaticBleOff := true
          currentApplicationState := BatteryState.undefined
          currentAdvertisementMode := shortMode }
      radio := { advertising := none, connection := none } }
  handler := .bleDefaultState
  bridgeMask := fullBridgeMask
  queue :=
    CyclicBuffer.create
      (fun _ => { id := 0, parameter1 := 0, category := 0, parameter2 := 0 })
      32 (by decide) (by decide)

/-- `BleInterface_PublishBleMessage` -/
def publishBleMessage (ble : BleSubsystem) (message : Message) :
    BleSubsystem :=
  { ble with queue := (ble.queue.enqueue message).1 }

/-- A message about the BLE subsystem for the application. -/
def subsystemMessage (id : UInt8) : Message where
  id := id
  parameter1 := 0
  category := Category.systemStateChange
  parameter2 := 0

/-- `SwitchBleOff` -/
def switchBleOff (ble : BleSubsystem) (answers : Answers) : BleOutcome :=
  let cancelled := ble.gap.advertiseCancel answers
  -- in case the cancel request was successful the state is changed
  if cancelled.context.deviceConnectionStatus = .idle then
    { ble :=
        { ble with
          gap := cancelled
          handler := .bleDisabledState
          bridgeMask := offBridgeMask }
      published := [subsystemMessage StateChange.bleSubsystemOff] }
  else
    { ble := { ble with gap := cancelled }, published := [] }

/-- A long press of the button. -/
def isLongPress (message : Message) : Bool :=
  message.category = Category.buttonEvent ∧
    message.id = ButtonEvent.longPress

/-- `BLE_INTERFACE_MSG_ID_BLE_OFF` -/
def isBleOff (message : Message) : Bool :=
  message.category = Category.bleEvent ∧ message.id = BleInterface.bleOff

/-- `BleDefaultStateCb` -/
def bleDefaultState
    (ble : BleSubsystem) (answers : Answers) (message : Message) :
    BleOutcome :=
  if message.category = Category.sensorValue ∧
      message.id = sensorDataId then
    if message.parameter1 = readSerialNumber then
      { ble := ble, published := [] }
    else
      { ble :=
          { ble with
            gap :=
              ble.gap.advertiseRequest answers
                ble.gap.context.currentAdvertisementMode }
        published := [] }
  else if message.category = Category.bleEvent ∧
      message.id = BleInterface.stopAdvertise then
    { ble := { ble with gap := ble.gap.advertiseCancel answers }
      published := [] }
  else if message.category = Category.bleEvent ∧
      message.id = BleInterface.startAdvertise then
    { ble :=
        { ble with
          gap :=
            ble.gap.advertiseRequest answers
              (AdvertisementMode.ofParameter message.parameter2) }
      published := [] }
  else if isBleOff message then
    ble.switchBleOff answers
  else if isLongPress message then
    ble.switchBleOff answers
  else
    { ble := ble, published := [] }

/-- Where `BleDisabledStateCb` switches the radio on again. -/
def switchBleOn (ble : BleSubsystem) (answers : Answers) : BleOutcome :=
  let context :=
    if ble.gap.context.currentApplicationState =
        BatteryState.reducedOperation then
      -- remember the choice of the user to force the radio to be on
      { ble.gap.context with automaticBleOff := false }
    else
      ble.gap.context
  { ble :=
      { ble with
        gap :=
          { ble.gap with context := context }.advertiseRequest answers
            shortMode
        handler := .bleDefaultState
        bridgeMask := fullBridgeMask }
    published := [subsystemMessage StateChange.bleSubsystemOn] }

/-- `BleDisabledStateCb` -/
def bleDisabledState
    (ble : BleSubsystem) (answers : Answers) (message : Message) :
    BleOutcome :=
  if isLongPress message then
    -- in case the battery is very low the radio is not enabled again
    if ble.gap.context.currentApplicationState =
        BatteryState.criticalBatteryLevel then
      { ble := ble, published := [] }
    else
      ble.switchBleOn answers
  else
    { ble := ble, published := [] }

/-- The call of `currentMessageHandlerCb` of `_bleAppListener`. -/
def handleBleMessage
    (ble : BleSubsystem) (answers : Answers) (message : Message) :
    BleOutcome :=
  if appListenerMask &&& message.category = 0 then
    { ble := ble, published := [] }
  else
    match ble.handler with
    | .bleDefaultState => ble.bleDefaultState answers message
    | .bleDisabledState => ble.bleDisabledState answers message

/-- `RunBleMessageDispatch` -/
def runBleMessageDispatch (ble : BleSubsystem) (answers : Answers) :
    BleOutcome :=
  match ble.queue.dequeue.2 with
  | none => { ble := ble, published := [] }
  | some message =>
      { ble with queue := ble.queue.dequeue.1 }.handleBleMessage answers
        message

/-- `HandleReadoutIntervalChange` -/
def handleReadoutIntervalChange
    (ble : BleSubsystem) (readoutIntervalSeconds : UInt8) : BleSubsystem :=
  ble.publishBleMessage
    { id := BleInterface.startAdvertise
      parameter1 := 0
      category := Category.bleEvent
      parameter2 :=
        { ble.gap.context.currentAdvertisementMode with
          interval :=
            if readoutIntervalSeconds = shortReadoutIntervalSeconds then
              .short
            else if readoutIntervalSeconds =
                mediumReadoutIntervalSeconds then
              .medium
            else
              .long : AdvertisementMode }.toParameter }

/-- The message that switches the radio off. -/
def bleOffMessage : Message where
  id := BleInterface.bleOff
  parameter1 := 0
  category := Category.bleEvent
  parameter2 := 0

/-- Record a change of the battery state. -/
def recordState (ble : BleSubsystem) (state : UInt8) : BleSubsystem :=
  { ble with
    gap :=
      { ble.gap with
        context :=
          { ble.gap.context with currentApplicationState := state } } }

/-- The battery state change of `ForwardToBleAppCb`. -/
def handleBatteryState (ble : BleSubsystem) (state : UInt8) :
    BleSubsystem :=
  if ble.gap.context.currentApplicationState =
      BatteryState.criticalBatteryLevel then
    -- the system does not recover from the critical battery level
    ble
  else if state > BatteryState.noRestriction ∧
      (state = BatteryState.criticalBatteryLevel ∨
        ble.gap.context.automaticBleOff) then
    (ble.recordState state).publishBleMessage bleOffMessage
  else
    ble.recordState state

/-- The system state changes that `ForwardToBleAppCb` handles. -/
def forwardStateChange (ble : BleSubsystem) (message : Message) :
    BleSubsystem :=
  if message.id = StateChange.readoutIntervalChange then
    ble.handleReadoutIntervalChange message.parameter2.toUInt8
  else if message.id = StateChange.deviceSettingsRead then
    ble.publishBleMessage
      { message with
        category := Category.bleEvent
        id := BleInterface.updateDeviceSettings }
  else if message.id = StateChange.deviceSettingsChanged then
    ble.publishBleMessage
      { message with
        category := Category.bleEvent
        id := BleInterface.svcReqResponse }
  else
    ble

/-- `ForwardToBleAppCb` -/
def forwardToBleApp (ble : BleSubsystem) (message : Message) :
    BleSubsystem :=
  if message.category = Category.timeInformation ∧
      message.id = timeInfoTimeElapsed then
    { ble with
      gap :=
        { ble.gap with
          context :=
            { ble.gap.context with
              timeRunningSeconds := message.parameter2.toUInt64 } } }
  else if message.category = Category.sensorValue ∧
      message.id = sensorDataId then
    ble.publishBleMessage message
  else if isLongPress message then
    -- do not react on a long press during bootup
    if ble.gap.context.timeRunningSeconds < 5 then
      ble
    else
      ble.publishBleMessage message
  else if message.category = Category.systemStateChange then
    ble.forwardStateChange message
  else if message.category = Category.batteryEvent ∧
      message.id = batteryStateChange then
    ble.handleBatteryState message.currentState
  else if message.category = Category.batteryEvent ∧
      message.id = batteryCapacityChange then
    ble.publishBleMessage message
  else
    ble

/-- The application's broker delivers a message to the bridge. -/
def receiveAppMessage (ble : BleSubsystem) (message : Message) :
    BleSubsystem :=
  if ble.bridgeMask &&& message.category = 0 then
    ble
  else
    ble.forwardToBleApp message

/-- `HCI_LE_CONNECTION_COMPLETE_SUBEVT_CODE` -/
def connectionComplete (ble : BleSubsystem) (handle : UInt16) :
    BleSubsystem :=
  { ble with
    gap :=
      { context :=
          { ble.gap.context with
            deviceConnectionStatus :=
              if ble.gap.context.deviceConnectionStatus =
                  .lpConnecting then
                .connectedClient
              else
                .connectedServer
            connectionHandle := handle }
        radio := { advertising := none, connection := some handle } } }

/-- The message about a disconnect. -/
def disconnectMessage : Message where
  id := BleInterface.disconnect
  parameter1 := 0
  category := Category.bleEvent
  parameter2 := 0

/-- The context after a connection is closed. -/
def closeConnection (gap : BleGap) (handle : UInt16) : BleGap :=
  if handle = gap.context.connectionHandle then
    { context :=
        { gap.context with
          deviceConnectionStatus := .idle
          connectionHandle := 0 }
      radio := { gap.radio with connection := none } }
  else
    { gap with radio := { gap.radio with connection := none } }

/-- `HCI_DISCONNECTION_COMPLETE_EVT_CODE` -/
def disconnectionComplete
    (ble : BleSubsystem) (answers : Answers) (handle : UInt16) :
    BleOutcome :=
  let stopped := (closeConnection ble.gap handle).advertiseCancel answers
  { ble :=
      { ble with
        gap :=
          stopped.advertiseRequest answers
            stopped.context.currentAdvertisementMode }
    published :=
      if handle = ble.gap.context.connectionHandle then
        [disconnectMessage]
      else
        [] }

/-- What can happen to the BLE subsystem. -/
inductive Event where
  /-- The application's broker dispatches a message. -/
  | app (message : Message)
  /-- Some other component publishes a message for the BLE task. -/
  | publish (message : Message)
  /-- The BLE task handles a message. -/
  | dispatch (answers : Answers)
  | connect (handle : UInt16)
  | disconnect (answers : Answers)
  deriving Repr, DecidableEq

/-- A central connects to an advertiser only, and one that did disconnects. -/
def step (ble : BleSubsystem) : Event → Option BleSubsystem
  | .app message => some (ble.receiveAppMessage message)
  | .publish message => some (ble.publishBleMessage message)
  | .dispatch answers => some (ble.runBleMessageDispatch answers).ble
  | .connect handle =>
      if ble.gap.radio.advertising = none then
        none
      else
        some (ble.connectionComplete handle)
  | .disconnect answers =>
      ble.gap.radio.connection.map fun handle =>
        (ble.disconnectionComplete answers handle).ble

end BleSubsystem

end DemoBoard
