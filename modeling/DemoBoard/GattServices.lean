import Mathlib.Logic.Basic

namespace DemoBoard.GattServices

/-!
# GATT services

Model of the services with event handlers, `gatt_service/Reboot.c`,
`gatt_service/DataLoggerService.c` and `gatt_service/DeviceSettingsService.c`,
of the dispatch of their events in `BleGatt.c` and `svc_ctl.c`, and of what
`SVCCTL_App_Notification` does with GATT events.  The handles are assigned by
the BLE stack.
-/

/-- The services that register an event handler. -/
inductive Service where
  | reboot
  | dataLogger
  | deviceSettings
  deriving Repr, DecidableEq

/-- The characteristics of these services. -/
inductive Characteristic where
  | reboot
  | loggingInterval
  | availableSamples
  | requestSamples
  | sampleData
  | version
  | alternativeDeviceName
  | isLogEnabled
  | isAdvertiseDataEnabled
  deriving Repr, DecidableEq

/-- The fields of `BleTypes_Characteristic_t` that say what is allowed. -/
structure Declaration where
  maxValueLength : Nat
  /-- `CHAR_PROP_READ` -/
  read : Bool
  /-- `CHAR_PROP_WRITE` -/
  write : Bool
  /-- `CHAR_PROP_WRITE_WITHOUT_RESP` -/
  writeWithoutResponse : Bool
  /-- `CHAR_PROP_NOTIFY` -/
  notify : Bool
  /-- `GATT_NOTIFY_ATTRIBUTE_WRITE` -/
  notifyWrite : Bool
  /-- `GATT_NOTIFY_READ_REQ_AND_WAIT_FOR_APPL_RESP` -/
  waitOnRead : Bool
  isVariableLengthValue : Bool
  deriving Repr, DecidableEq

namespace Service

/-- The argument of `BleGatt_AddPrimaryService`. -/
def nrOfCharacteristics : Service → Nat
  | .reboot => 1
  | .dataLogger => 5
  | .deviceSettings => 4

/-- `Max_Attribute_Records`, as `BleGatt_AddPrimaryService` requests it. -/
def maxAttributeRecords (service : Service) : Nat :=
  service.nrOfCharacteristics * 2 + 1

end Service

namespace Characteristic

/-- The service that a characteristic belongs to. -/
def service : Characteristic → Service
  | .reboot => .reboot
  | .loggingInterval => .dataLogger
  | .availableSamples => .dataLogger
  | .requestSamples => .dataLogger
  | .sampleData => .dataLogger
  | .version => .deviceSettings
  | .alternativeDeviceName => .deviceSettings
  | .isLogEnabled => .deviceSettings
  | .isAdvertiseDataEnabled => .deviceSettings

/-- A characteristic that nobody can use. -/
def closed : Declaration where
  maxValueLength := 1
  read := false
  write := false
  writeWithoutResponse := false
  notify := false
  notifyWrite := false
  waitOnRead := false
  isVariableLengthValue := false

/-- What is passed to `BleGatt_AddCharacteristic`. -/
def declaration : Characteristic → Declaration
  | .reboot =>
      { closed with
        maxValueLength := 3
        writeWithoutResponse := true
        notifyWrite := true }
  | .loggingInterval =>
      { closed with
        maxValueLength := 4
        read := true
        write := true
        notifyWrite := true
        waitOnRead := true }
  | .availableSamples =>
      { closed with maxValueLength := 4, read := true, waitOnRead := true }
  | .requestSamples =>
      { closed with
        maxValueLength := 4
        read := true
        write := true
        notifyWrite := true }
  | .sampleData => { closed with maxValueLength := 20, notify := true }
  | .version => { closed with read := true }
  | .alternativeDeviceName =>
      { closed with
        maxValueLength := 31
        read := true
        write := true
        notifyWrite := true
        isVariableLengthValue := true }
  | .isLogEnabled =>
      { closed with read := true, write := true, notifyWrite := true }
  | .isAdvertiseDataEnabled =>
      { closed with read := true, write := true, notifyWrite := true }

/-- The attributes of a characteristic: one more if it can notify. -/
def attributes (characteristic : Characteristic) : Nat :=
  if characteristic.declaration.notify then 3 else 2

end Characteristic

/-- The handles that the stack has assigned. -/
structure Handles where
  service : Service → UInt16
  /-- The handle of the declaration of a characteristic. -/
  characteristic : Characteristic → UInt16

/-- Two ranges of handles do not overlap. -/
def Apart (first second : UInt16) (length other : Nat) : Prop :=
  first.toNat + length ≤ second.toNat ∨ second.toNat + other ≤ first.toNat

/--
What the stack promises: the handles of a service are a range of its own, and
the attributes of a characteristic are next to each other in it.
-/
structure Handles.Assigned (handles : Handles) : Prop where
  services : ∀ first second, first ≠ second →
    Apart (handles.service first) (handles.service second)
      first.maxAttributeRecords second.maxAttributeRecords
  inside : ∀ characteristic,
    (handles.service characteristic.service).toNat <
        (handles.characteristic characteristic).toNat ∧
      (handles.characteristic characteristic).toNat +
          characteristic.attributes ≤
        (handles.service characteristic.service).toNat +
          characteristic.service.maxAttributeRecords
  characteristics : ∀ first second, first ≠ second →
    first.service = second.service →
    Apart (handles.characteristic first) (handles.characteristic second)
      first.attributes second.attributes

/-- The variables of the services. -/
structure Services where
  handles : Handles
  /-- `currentConnection` of the data logger service. -/
  currentConnection : UInt16
  requestedNrOfSamples : UInt16
  /-- `currentConnection` of the device settings service. -/
  settingsConnection : UInt16
  /-- The static buffer of `WriteAlternativeDeviceName`. -/
  alternativeDeviceName : List UInt8

/-- The service requests that are published to the application. -/
inductive Request where
  | getLoggingInterval (connectionHandle : UInt16)
  | setLoggingInterval (loggingInterval : UInt32)
  | getAvailableSamples (connectionHandle : UInt16)
  | setRequestedSamples (count : UInt16)
  /-- With the address of the static buffer. -/
  | setAlternativeDeviceName
  | setDebugLogEnable (parameter : UInt32)
  | setAdvertiseDataEnable (parameter : UInt32)
  deriving Repr, DecidableEq

/-- What a handler does besides changing the variables of its service. -/
inductive Effect where
  | publish (request : Request)
  /-- `BleGatt_UpdateCharacteristic` -/
  | update (handle : UInt16) (value : List UInt8)
  /-- `SERVICE_REQUEST_MESSAGE_ID_TX_POOL_AVAILABLE` for the BLE task. -/
  | txPoolAvailable
  | stopSendSamples
  /-- `NVIC_SystemReset`, with the data that is left in the SRAM. -/
  | systemReset (data : List UInt8)
  deriving Repr, DecidableEq

/-- An `evt_blecore_aci` in the buffer that it was received in. -/
structure CoreEvent where
  ecode : UInt16
  /-- The buffer from the parameters of the event on. -/
  data : Nat → UInt8

/-- A `uint16_t` of a buffer. -/
def halfWord (data : Nat → UInt8) (offset : Nat) : UInt16 :=
  (data offset).toUInt16 ||| (data (offset + 1)).toUInt16 <<< 8

/-- A `uint32_t` of a buffer. -/
def word (data : Nat → UInt8) (offset : Nat) : UInt32 :=
  (halfWord data offset).toUInt32 |||
    (halfWord data (offset + 2)).toUInt32 <<< 16

/-- The first bytes of a buffer. -/
def bytes (data : Nat → UInt8) (length : Nat) : List UInt8 :=
  (List.range length).map data

namespace CoreEvent

/-! The events are read as `aci_gatt_attribute_modified_event_rp0`. -/

def connectionHandle (event : CoreEvent) : UInt16 := halfWord event.data 0

def attrHandle (event : CoreEvent) : UInt16 := halfWord event.data 2

def attrDataLength (event : CoreEvent) : UInt16 := halfWord event.data 6

def attrData (event : CoreEvent) : Nat → UInt8 :=
  fun place => event.data (8 + place)

end CoreEvent

/-- `ACI_GATT_ATTRIBUTE_MODIFIED_VSEVT_CODE` -/
def attributeModified : UInt16 := 0x0C01

/-- `ACI_GATT_READ_PERMIT_REQ_VSEVT_CODE` -/
def readPermitReq : UInt16 := 0x0C14

/-- `ACI_GATT_TX_POOL_AVAILABLE_VSEVT_CODE` -/
def txPoolAvailable : UInt16 := 0x0C16

/-- `SVCCTL_EGID_EVT_MASK` -/
def egidEvtMask : UInt16 := 0xFF00

/-- `SVCCTL_GATT_EVT_TYPE` -/
def gattEvtType : UInt16 := 0x0C00

/-! ## The handlers of the characteristics -/

/-- The arguments of a `BleGatt_ClientRequestHandlerCb_t`. -/
structure ClientRequest where
  connectionHandle : UInt16
  data : Nat → UInt8
  dataLength : UInt8

/-- The result of a handler that acknowledges its event. -/
abbrev Handled := Services × List Effect

/-- `BleGatt_ClientRequestHandlerCb_t` -/
abbrev Handler := Services → ClientRequest → Handled

/-- `NopWriteHandler`, `ReadRequestedSamples` and `NopHandler` -/
def nopHandler : Handler := fun services _ => (services, [])

/-- `ReadLoggingInterval` -/
def readLoggingInterval : Handler := fun services request =>
  ({ services with currentConnection := request.connectionHandle },
    [.publish (.getLoggingInterval request.connectionHandle)])

/-- `WriteLoggingInterval` -/
def writeLoggingInterval : Handler := fun services request =>
  (services, [.publish (.setLoggingInterval (word request.data 0))])

/-- `ReadAvailableSamples` -/
def readAvailableSamples : Handler := fun services request =>
  ({ services with currentConnection := request.connectionHandle },
    [.publish (.getAvailableSamples request.connectionHandle)])

/-- `WriteRequestedSamples` -/
def writeRequestedSamples : Handler := fun services request =>
  ({ services with requestedNrOfSamples := halfWord request.data 0 },
    [.update (services.handles.characteristic .requestSamples)
      (bytes request.data request.dataLength.toNat)])

/-- `WriteAlternativeDeviceName` -/
def writeAlternativeDeviceName : Handler := fun services request =>
  ({ services with
      settingsConnection := request.connectionHandle
      alternativeDeviceName :=
        (bytes request.data (min request.dataLength.toNat 31)).rightpad
          32 0 },
    [.publish .setAlternativeDeviceName])

/-- A `bool` that is passed as the parameter of a message. -/
def flag (byte : UInt8) : UInt32 := if byte = 0 then 0 else 1

/-- `WriteIsLogEnabled` -/
def writeIsLogEnabled : Handler := fun services request =>
  ({ services with settingsConnection := request.connectionHandle },
    [.publish (.setDebugLogEnable (flag (request.data 0)))])

/-- `WriteIsAdvertiseDataEnabled` -/
def writeIsAdvertiseDataEnabled : Handler := fun services request =>
  ({ services with settingsConnection := request.connectionHandle },
    [.publish (.setAdvertiseDataEnable (flag (request.data 0)))])

/-! ## The event handlers of the services -/

/-- `BleGatt_ServiceCharacteristic_t`; a handler may be missing. -/
structure ServiceCharacteristic where
  handle : UInt16
  onRead : Option Handler
  onWrite : Option Handler

/-- The table of the data logger service. -/
def dataLoggerCharacteristics (handles : Handles) :
    List ServiceCharacteristic :=
  [{ handle := handles.characteristic .loggingInterval
     onRead := some readLoggingInterval
     onWrite := some writeLoggingInterval },
    { handle := handles.characteristic .availableSamples
      onRead := some readAvailableSamples
      onWrite := some nopHandler },
    { handle := handles.characteristic .requestSamples
      onRead := some nopHandler
      onWrite := some writeRequestedSamples },
    { handle := handles.characteristic .sampleData
      onRead := none
      onWrite := some nopHandler }]

/-- The table of the device settings service. -/
def deviceSettingsCharacteristics (handles : Handles) :
    List ServiceCharacteristic :=
  [{ handle := handles.characteristic .version
     onRead := some nopHandler
     onWrite := some nopHandler },
    { handle := handles.characteristic .alternativeDeviceName
      onRead := some nopHandler
      onWrite := some writeAlternativeDeviceName },
    { handle := handles.characteristic .isLogEnabled
      onRead := some nopHandler
      onWrite := some writeIsLogEnabled },
    { handle := handles.characteristic .isAdvertiseDataEnabled
      onRead := some nopHandler
      onWrite := some writeIsAdvertiseDataEnabled }]

/-- A handler that is not set is called. -/
inductive Fault where
  | nullPointer
  deriving Repr, DecidableEq

/-- The call of a handler of the table. -/
def call (services : Services) (event : CoreEvent) :
    Option Handler → Except Fault (Option Handled)
  | none => .error .nullPointer
  | some handler =>
      .ok (some (handler services
        { connectionHandle := event.connectionHandle
          data := event.attrData
          dataLength := event.attrDataLength.toUInt8 }))

/-- `BleGatt_HandleBleCoreEvent`; `none` stands for `SVCCTL_EvtNotAck`. -/
def handleBleCoreEvent (services : Services) (event : CoreEvent) :
    List ServiceCharacteristic → Except Fault (Option Handled)
  | [] => .ok none
  | characteristic :: rest =>
      if event.attrHandle.toNat = characteristic.handle.toNat + 1 then
        if event.ecode = attributeModified then
          call services event characteristic.onWrite
        else if event.ecode = readPermitReq then
          call services event characteristic.onRead
        else
          handleBleCoreEvent services event rest
      else
        handleBleCoreEvent services event rest

/-- The event handlers in the order of their registration. -/
def registeredHandlers : List Service :=
  [.reboot, .dataLogger, .deviceSettings]

/-- `EventHandler` of a service -/
def eventHandler (services : Services) (event : CoreEvent) :
    Service → Except Fault (Option Handled)
  | .reboot =>
      if event.ecode = attributeModified ∧
          event.attrHandle.toNat =
            (services.handles.characteristic .reboot).toNat + 1 then
        .ok (some (services,
          [.systemReset (bytes event.attrData event.attrDataLength.toNat)]))
      else
        .ok none
  | .dataLogger =>
      handleBleCoreEvent services event
        (dataLoggerCharacteristics services.handles)
  | .deviceSettings =>
      handleBleCoreEvent services event
        (deviceSettingsCharacteristics services.handles)

/-! ## The dispatch -/

/-- The loop of `SVCCTL_UserEvtRx`. -/
def callHandlers (services : Services) (event : CoreEvent) :
    List Service → Except Fault (Option Handled)
  | [] => .ok none
  | service :: rest =>
      (eventHandler services event service).bind fun
        | none => callHandlers services event rest
        | some handled => .ok (some handled)

/-- The GATT events of `SVCCTL_App_Notification`. -/
def appNotification (services : Services) (event : CoreEvent) : Handled :=
  if event.ecode = txPoolAvailable then
    (services, [.txPoolAvailable])
  else if event.ecode = attributeModified ∧
      event.attrHandle.toNat =
        (services.handles.characteristic .sampleData).toNat + 2 then
    -- trigger the download of samples if a client has subscribed
    if event.attrData 0 &&& 1 ≠ 0 then
      (services,
        [.publish (.setRequestedSamples services.requestedNrOfSamples)])
    else
      (services, [.stopSendSamples])
  else
    (services, [])

/-- `SVCCTL_UserEvtRx` -/
def userEvtRx (services : Services) (event : CoreEvent) :
    Except Fault Handled :=
  if event.ecode &&& egidEvtMask = gattEvtType then
    (callHandlers services event registeredHandlers).map fun
      | none => appNotification services event
      | some handled => handled
  else
    .ok (appNotification services event)

end DemoBoard.GattServices
