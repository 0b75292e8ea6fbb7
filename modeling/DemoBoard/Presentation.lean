import DemoBoard.Messages

namespace DemoBoard

/-!
# Presentation controller

Model of the message handlers of `app/Presentation.c`.  The screen, the
trace, the timers and the floating point values of the sensor are left out;
`_timeStepDeltaSeconds` is a field of the controller.
-/

namespace Presentation

/-- `PAIRING_TIMEOUT_S` -/
def pairingTimeoutSeconds : UInt32 := 30

/-- The values of `currentMessageHandlerCb`. -/
inductive Handler where
  | appBoot
  | appShowVersion
  | appNormalOperation
  | appPairing
  deriving Repr, DecidableEq

/-- The values of `DisplayValueRow1`. -/
inductive Row1 where
  | relativeHumidity
  | dewPoint
  deriving Repr, DecidableEq

/-- The values of `TemperatureConversionCb`. -/
inductive TemperatureUnit where
  | celsius
  | fahrenheit
  deriving Repr, DecidableEq

/-- `Presentation_Controller_t` -/
structure Controller where
  handler : Handler
  batteryState : UInt8
  lowBatterySymbolOn : Bool
  bleOn : Bool
  uptimeSeconds : UInt64
  uptimeSecondsSinceUserEvent : UInt64
  pairingWaitTimeSeconds : UInt32
  pairingCode : UInt32
  displayValueRow1 : Row1
  temperatureUnit : TemperatureUnit
  timeStepDeltaSeconds : UInt8
  deriving Repr, DecidableEq

/-- The initial value of `_controller`. -/
def Controller.static : Controller where
  handler := .appBoot
  batteryState := BatteryState.noRestriction
  lowBatterySymbolOn := false
  bleOn := false
  uptimeSeconds := 0
  uptimeSecondsSinceUserEvent := 0
  pairingWaitTimeSeconds := 0
  pairingCode := 0
  displayValueRow1 := .relativeHumidity
  temperatureUnit := .celsius
  timeStepDeltaSeconds := 1

/-- What a message handler leaves behind. -/
structure Outcome where
  controller : Controller
  published : List Publication
  handled : Bool
  deriving Repr, DecidableEq

/-- The condition on sensor messages in all handlers. -/
def isSensorData (message : Message) : Bool :=
  message.category = Category.sensorValue ∧ message.id = sensorDataId ∧
    message.parameter1 ≠ readSerialNumber

/-- The condition on time messages in all handlers. -/
def isTimeElapsed (message : Message) : Bool :=
  message.category = Category.timeInformation ∧
    message.id = timeInfoTimeElapsed

/-- A message of the user button. -/
def isButtonEvent (message : Message) : Bool :=
  message.category = Category.buttonEvent

/-- A request to show a pairing code. -/
def isAskUserAcceptPairing (message : Message) : Bool :=
  message.category = Category.bleEvent ∧
    message.id = BleInterface.askUserAcceptPairing

/-- A message that the central has disconnected. -/
def isDisconnect (message : Message) : Bool :=
  message.category = Category.bleEvent ∧
    message.id = BleInterface.disconnect

/-- The message published on a button press in the pairing state. -/
def userAcceptedPairing : Publication :=
  .ble
    { id := BleInterface.userAcceptedPairing
      parameter1 := 0
      category := Category.bleEvent
      parameter2 := 0 }

/-- The message published when nobody confirms the pairing. -/
def pairingTimeout : Publication :=
  .ble
    { id := BleInterface.pairingTimeout
      parameter1 := 0
      category := Category.bleEvent
      parameter2 := 0 }

/-- `PublishReadoutIntervalIfChanged` -/
def publishReadoutIntervalIfChanged
    (controller : Controller) (readoutIntervalSec : UInt8) :
    List Publication :=
  if readoutIntervalSec = controller.timeStepDeltaSeconds then
    []
  else
    [.app
      { id := StateChange.readoutIntervalChange
        parameter1 := 0
        category := Category.systemStateChange
        parameter2 := readoutIntervalSec.toUInt32 }]

/-- `SelectTemperatureUnitFahrenheit` -/
def selectTemperatureUnitFahrenheit (controller : Controller) : Controller :=
  { controller with temperatureUnit := .fahrenheit }

/-- `ToggleTemperatureUnitFahrenheit` -/
def toggleTemperatureUnitFahrenheit (controller : Controller) : Controller :=
  match controller.temperatureUnit with
  | .fahrenheit => { controller with temperatureUnit := .celsius }
  | .celsius => { controller with temperatureUnit := .fahrenheit }

/-- The two additions at the start of every time event. -/
def addUptime (controller : Controller) (seconds : UInt8) : Controller :=
  { controller with
    uptimeSeconds := controller.uptimeSeconds + seconds.toUInt64
    uptimeSecondsSinceUserEvent :=
      controller.uptimeSecondsSinceUserEvent + seconds.toUInt64 }

/-- `EvalBatteryEventCb` -/
def evalBatteryEvent (controller : Controller) (message : Message) :
    Outcome :=
  if message.category = Category.batteryEvent ∧
      message.id = batteryStateChange then
    { controller :=
        { controller with
          batteryState := message.currentState
          lowBatterySymbolOn :=
            message.currentState = BatteryState.reducedOperation ∨
              message.currentState = BatteryState.criticalBatteryLevel }
      published := []
      handled := true }
  else
    { controller := controller, published := [], handled := false }

/-- What `HandleSystemStateChange` changes in the controller. -/
def applySystemStateChange (controller : Controller) (message : Message) :
    Controller :=
  if message.id = StateChange.bleSubsystemOff then
    { controller with bleOn := false }
  else if message.id = StateChange.bleSubsystemOn then
    { controller with bleOn := true }
  else if message.id = StateChange.peripheralsInitialized then
    { controller with uptimeSeconds := 0, uptimeSecondsSinceUserEvent := 0 }
  else if message.id = StateChange.readoutIntervalChange then
    -- `Presentation_setTimeStep`
    { controller with timeStepDeltaSeconds := message.parameter2.toUInt8 }
  else
    controller

/-- `HandleSystemStateChange` -/
def handleSystemStateChange (controller : Controller) (message : Message) :
    Outcome :=
  if message.category ≠ Category.systemStateChange then
    { controller := controller, published := [], handled := false }
  else
    { controller := applySystemStateChange controller message
      published := []
      handled := true }

/-- The tail of every handler but the version screen's and the boot's. -/
def handleStateOrBattery (controller : Controller) (message : Message) :
    Outcome :=
  if (handleSystemStateChange controller message).handled then
    handleSystemStateChange controller message
  else
    evalBatteryEvent controller message

/-- `AppBootStateCb` -/
def appBootState (controller : Controller) (message : Message) : Outcome :=
  if (handleSystemStateChange controller message).handled then
    handleSystemStateChange controller message
  else if isTimeElapsed message then
    let elapsed := addUptime controller message.parameter1
    { controller :=
        if elapsed.uptimeSeconds > 1 then
          { elapsed with handler := .appShowVersion }
        else
          elapsed
      published := []
      handled := true }
  else if isButtonEvent message then
    { controller := selectTemperatureUnitFahrenheit controller
      published := []
      handled := true }
  else
    evalBatteryEvent controller message

/-- `AppShowVersionStateCb` -/
def appShowVersionState (controller : Controller) (message : Message) :
    Outcome :=
  if isTimeElapsed message then
    let elapsed := addUptime controller message.parameter1
    { controller :=
        if elapsed.uptimeSeconds > 3 then
          { elapsed with handler := .appNormalOperation }
        else
          elapsed
      published := []
      handled := true }
  else if isButtonEvent message then
    { controller := selectTemperatureUnitFahrenheit controller
      published := []
      handled := true }
  else
    handleStateOrBattery controller message

/-- The change of the screen on a button press in normal operation. -/
def changeRepresentation (controller : Controller) (message : Message) :
    Controller :=
  if message.id = ButtonEvent.doubleClick then
    toggleTemperatureUnitFahrenheit controller
  else if message.id = ButtonEvent.shortPress then
    match controller.displayValueRow1 with
    | .dewPoint => { controller with displayValueRow1 := .relativeHumidity }
    | .relativeHumidity => { controller with displayValueRow1 := .dewPoint }
  else
    controller

/-- The BLE events of `AppNormalOperationStateCb`. -/
def normalOperationBleEvent (controller : Controller) (message : Message) :
    Outcome :=
  if message.id = BleInterface.disconnect then
    { controller := { controller with uptimeSecondsSinceUserEvent := 0 }
      published :=
        publishReadoutIntervalIfChanged controller
          shortReadoutIntervalSeconds
      handled := true }
  else if message.id = BleInterface.askUserAcceptPairing then
    { controller :=
        { controller with
          pairingWaitTimeSeconds := 0
          pairingCode := message.parameter2
          handler := .appPairing }
      published := []
      handled := true }
  else
    { controller := controller, published := [], handled := true }

/-- `AppNormalOperationStateCb` -/
def appNormalOperationState (controller : Controller) (message : Message) :
    Outcome :=
  if isSensorData message then
    { controller := controller, published := [], handled := true }
  else if isTimeElapsed message then
    let elapsed := addUptime controller message.parameter1
    { controller := elapsed
      published :=
        if elapsed.uptimeSecondsSinceUserEvent > 300 then
          publishReadoutIntervalIfChanged elapsed longReadoutIntervalSeconds
        else if elapsed.uptimeSecondsSinceUserEvent > 30 then
          publishReadoutIntervalIfChanged elapsed
            mediumReadoutIntervalSeconds
        else
          []
      handled := true }
  else if isButtonEvent message then
    { controller :=
        { changeRepresentation controller message with
          uptimeSecondsSinceUserEvent := 0 }
      published :=
        publishReadoutIntervalIfChanged controller
          shortReadoutIntervalSeconds
      handled := true }
  else if message.category = Category.bleEvent then
    normalOperationBleEvent controller message
  else
    handleStateOrBattery controller message

/-- The time event of `AppPairingStateCb`. -/
def pairingTimeElapsed (controller : Controller) (seconds : UInt8) :
    Outcome :=
  let elapsed := addUptime controller seconds
  let waited := elapsed.pairingWaitTimeSeconds + seconds.toUInt32
  if waited ≥ pairingTimeoutSeconds then
    { controller :=
        { elapsed with
          pairingWaitTimeSeconds := waited
          handler := .appNormalOperation }
      published := [pairingTimeout]
      handled := true }
  else
    { controller := { elapsed with pairingWaitTimeSeconds := waited }
      published := []
      handled := true }

/-- `AppPairingStateCb` -/
def appPairingState (controller : Controller) (message : Message) :
    Outcome :=
  if isSensorData message then
    { controller := controller, published := [], handled := true }
  else if isTimeElapsed message then
    pairingTimeElapsed controller message.parameter1
  else if isButtonEvent message then
    { controller := { controller with handler := .appNormalOperation }
      published := [userAcceptedPairing]
      handled := true }
  else
    handleStateOrBattery controller message

/-- The call of `currentMessageHandlerCb`. -/
def receive (controller : Controller) (message : Message) : Outcome :=
  match controller.handler with
  | .appBoot => appBootState controller message
  | .appShowVersion => appShowVersionState controller message
  | .appNormalOperation => appNormalOperationState controller message
  | .appPairing => appPairingState controller message

/-! ## What a handler does to the pairing -/

/-- A handler stays, or changes to one that is not the pairing state's. -/
def KeepsPairing (before after : Controller) : Prop :=
  after.pairingCode = before.pairingCode ∧
    (after.handler = before.handler ∨ after.handler ≠ .appPairing)

theorem KeepsPairing.refl (controller : Controller) :
    KeepsPairing controller controller :=
  ⟨rfl, .inl rfl⟩

theorem evalBatteryEvent_keepsPairing
    (controller : Controller) (message : Message) :
    KeepsPairing controller
      (evalBatteryEvent controller message).controller := by
  unfold evalBatteryEvent
  split
  · exact ⟨rfl, .inl rfl⟩
  · exact .refl controller

theorem handleSystemStateChange_keepsPairing
    (controller : Controller) (message : Message) :
    KeepsPairing controller
      (handleSystemStateChange controller message).controller := by
  unfold handleSystemStateChange applySystemStateChange
  split
  · exact .refl controller
  · repeat' split
    all_goals exact ⟨rfl, .inl rfl⟩

theorem handleStateOrBattery_keepsPairing
    (controller : Controller) (message : Message) :
    KeepsPairing controller
      (handleStateOrBattery controller message).controller := by
  unfold handleStateOrBattery
  split
  · exact handleSystemStateChange_keepsPairing controller message
  · exact evalBatteryEvent_keepsPairing controller message

theorem appBootState_keepsPairing
    (controller : Controller) (message : Message) :
    KeepsPairing controller (appBootState controller message).controller := by
  unfold appBootState
  split
  · exact handleSystemStateChange_keepsPairing controller message
  split
  · dsimp only
    split
    · exact ⟨rfl, .inr (by simp)⟩
    · exact ⟨rfl, .inl rfl⟩
  split
  · exact ⟨rfl, .inl rfl⟩
  · exact evalBatteryEvent_keepsPairing controller message

theorem appShowVersionState_keepsPairing
    (controller : Controller) (message : Message) :
    KeepsPairing controller
      (appShowVersionState controller message).controller := by
  unfold appShowVersionState
  split
  · dsimp only
    split
    · exact ⟨rfl, .inr (by simp)⟩
    · exact ⟨rfl, .inl rfl⟩
  split
  · exact ⟨rfl, .inl rfl⟩
  · exact handleStateOrBattery_keepsPairing controller message

theorem changeRepresentation_keepsPairing
    (controller : Controller) (message : Message) :
    KeepsPairing controller (changeRepresentation controller message) := by
  unfold changeRepresentation toggleTemperatureUnitFahrenheit
  repeat' split
  all_goals exact ⟨rfl, .inl rfl⟩

theorem pairingTimeElapsed_keepsPairing
    (controller : Controller) (seconds : UInt8) :
    KeepsPairing controller
      (pairingTimeElapsed controller seconds).controller := by
  unfold pairingTimeElapsed
  dsimp only
  split
  · exact ⟨rfl, .inr (by simp)⟩
  · exact ⟨rfl, .inl rfl⟩

theorem appPairingState_keepsPairing
    (controller : Controller) (message : Message) :
    KeepsPairing controller
      (appPairingState controller message).controller := by
  unfold appPairingState
  split
  · exact .refl controller
  split
  · exact pairingTimeElapsed_keepsPairing controller message.parameter1
  split
  · exact ⟨rfl, .inr (by simp)⟩
  · exact handleStateOrBattery_keepsPairing controller message

/-- Only a request leads from normal operation to the pairing state. -/
theorem appNormalOperationState_pairing
    (controller : Controller) (message : Message) :
    KeepsPairing controller
        (appNormalOperationState controller message).controller ∨
      isAskUserAcceptPairing message ∧
        (appNormalOperationState controller message).controller.pairingCode =
          message.parameter2 := by
  unfold appNormalOperationState
  split
  · exact .inl (.refl controller)
  split
  · exact .inl ⟨rfl, .inl rfl⟩
  split
  · exact .inl (changeRepresentation_keepsPairing controller message)
  split
  · rename_i ofBle
    unfold normalOperationBleEvent
    split
    · exact .inl ⟨rfl, .inl rfl⟩
    split
    · rename_i isAsk
      exact .inr ⟨by simp [isAskUserAcceptPairing, ofBle, isAsk], rfl⟩
    · exact .inl (.refl controller)
  · exact .inl (handleStateOrBattery_keepsPairing controller message)

/-- The pairing state is kept with its code, or entered by a request. -/
theorem receive_pairing
    {controller : Controller}
    {message : Message}
    (inPairing :
      (receive controller message).controller.handler = .appPairing) :
    controller.handler = .appPairing ∧
        (receive controller message).controller.pairingCode =
          controller.pairingCode ∨
      isAskUserAcceptPairing message ∧
        (receive controller message).controller.pairingCode =
          message.parameter2 := by
  have ofKeeps
      (keeps :
        KeepsPairing controller (receive controller message).controller) :
      controller.handler = .appPairing ∧
        (receive controller message).controller.pairingCode =
          controller.pairingCode := by
    rcases keeps with ⟨sameCode, sameHandler | left⟩
    · exact ⟨sameHandler ▸ inPairing, sameCode⟩
    · exact absurd inPairing left
  unfold receive at *
  cases handler : controller.handler with
  | appBoot =>
      simp only [handler] at *
      simpa using ofKeeps (appBootState_keepsPairing controller message)
  | appShowVersion =>
      simp only [handler] at *
      simpa using
        ofKeeps (appShowVersionState_keepsPairing controller message)
  | appNormalOperation =>
      simp only [handler] at *
      rcases appNormalOperationState_pairing controller message with
        keeps | asked
      · simpa using ofKeeps keeps
      · exact .inr asked
  | appPairing =>
      simp only [handler] at *
      exact .inl (ofKeeps (appPairingState_keepsPairing controller message))

theorem userAcceptedPairing_notMem_publishReadoutInterval
    (controller : Controller) (readoutIntervalSec : UInt8) :
    userAcceptedPairing ∉
      publishReadoutIntervalIfChanged controller readoutIntervalSec := by
  unfold publishReadoutIntervalIfChanged
  split <;> simp [userAcceptedPairing]

theorem handleStateOrBattery_published
    (controller : Controller) (message : Message) :
    (handleStateOrBattery controller message).published = [] := by
  unfold handleStateOrBattery handleSystemStateChange evalBatteryEvent
  repeat' split
  all_goals rfl

/-- Only a button press in the pairing state confirms a pairing. -/
theorem receive_userAcceptedPairing
    {controller : Controller}
    {message : Message}
    (accepted : userAcceptedPairing ∈ (receive controller message).published) :
    controller.handler = .appPairing ∧ isButtonEvent message := by
  unfold receive at accepted
  cases handler : controller.handler with
  | appBoot =>
      simp only [handler, appBootState, handleSystemStateChange,
        evalBatteryEvent] at accepted
      grind
  | appShowVersion =>
      simp only [handler, appShowVersionState] at accepted
      grind [handleStateOrBattery_published]
  | appNormalOperation =>
      simp only [handler, appNormalOperationState,
        normalOperationBleEvent] at accepted
      grind [handleStateOrBattery_published,
        userAcceptedPairing_notMem_publishReadoutInterval]
  | appPairing =>
      refine ⟨rfl, ?_⟩
      simp only [handler, appPairingState, pairingTimeElapsed] at accepted
      have notTimeout : userAcceptedPairing ≠ pairingTimeout := by decide
      grind [handleStateOrBattery_published]

/-- A button press in the pairing state confirms the pairing. -/
theorem receive_button
    {controller : Controller}
    {message : Message}
    (inPairing : controller.handler = .appPairing)
    (button : isButtonEvent message) :
    userAcceptedPairing ∈ (receive controller message).published := by
  have ofButton : message.category = Category.buttonEvent := by
    simpa [isButtonEvent] using button
  have notSensor : isSensorData message = false := by
    simp [isSensorData, ofButton, Category.buttonEvent, Category.sensorValue]
  have notTime : isTimeElapsed message = false := by
    simp [isTimeElapsed, ofButton, Category.buttonEvent,
      Category.timeInformation]
  simp [receive, inPairing, appPairingState, notSensor, notTime, button]

end Presentation

end DemoBoard
