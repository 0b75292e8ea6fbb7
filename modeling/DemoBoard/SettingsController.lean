import DemoBoard.Crc
import DemoBoard.ItemStore

namespace DemoBoard

open ByteMemory

/-!
# Settings controller

Model of `app_service/item_store/SettingsController.c`.  The settings record is
the content of a store item; `HAL_CRC_Calculate` runs in hardware and is a
parameter, of which `unitCrc` is the value on the device.  Messages the
controller publishes are part of the results of its handlers.
-/

/-- `DEVICE_NAME_BUFFER_LENGTH` -/
def deviceNameBufferLength : Nat := 32

/-- `DEVICE_NAME_MAX_LEN` -/
def deviceNameMaxLen : Nat := deviceNameBufferLength - 1

/-- `ItemStore_SystemConfig_t`; a `bool` is the byte it is stored in. -/
structure SystemConfig where
  version : Byte
  isLogEnabled : Byte
  isAdvertiseDataEnabled : Byte
  paddingByte : Byte
  deviceName : Vector Byte deviceNameBufferLength
  loggingInterval : UInt32
  reserve2 : Vector Byte 84
  crc : UInt32
  deriving Repr, DecidableEq

namespace SystemConfig

/-- Memory image of a record without its checksum. -/
def protectedBytes (config : SystemConfig) : List Byte :=
  [config.version, config.isLogEnabled, config.isAdvertiseDataEnabled,
      config.paddingByte] ++
    (config.deviceName.toList ++
      (leBytes 4 config.loggingInterval.toNat ++ config.reserve2.toList))

/-- Memory image of a record. -/
def toBytes (config : SystemConfig) : List Byte :=
  config.protectedBytes ++ leBytes 4 config.crc.toNat

/-- The record at the start of a memory image. -/
def ofBytes (bytes : List Byte) : SystemConfig where
  version := bytes.getD 0 0
  isLogEnabled := bytes.getD 1 0
  isAdvertiseDataEnabled := bytes.getD 2 0
  paddingByte := bytes.getD 3 0
  deviceName := Vector.ofFn fun i => bytes.getD (4 + i.val) 0
  loggingInterval := UInt32.ofNat (leValue ((bytes.drop 36).take 4))
  reserve2 := Vector.ofFn fun i => bytes.getD (40 + i.val) 0
  crc := UInt32.ofNat (leValue ((bytes.drop 124).take 4))

@[simp] theorem length_protectedBytes (config : SystemConfig) :
    config.protectedBytes.length = 124 := by
  have name : config.deviceName.toList.length = 32 := Vector.length_toList
  simp [protectedBytes, name]

@[simp] theorem length_toBytes (config : SystemConfig) :
    config.toBytes.length = 128 := by
  simp [toBytes]

/-- The four bytes of a number decode to the number. -/
theorem ofNat_leValue_leBytes (value : UInt32) :
    UInt32.ofNat (leValue (leBytes 4 value.toNat)) = value := by
  have bound : value.toNat < 2 ^ 32 := value.toNat_lt
  rw [leValue_leBytes, Nat.mod_eq_of_lt (by omega), UInt32.ofNat_toNat]

/-- Reading back the memory image of a record. -/
theorem ofBytes_toBytes (config : SystemConfig) :
    ofBytes config.toBytes = config := by
  have name : config.deviceName.toList.length = 32 := Vector.length_toList
  have reserve : config.reserve2.toList.length = 84 := Vector.length_toList
  have intervalBytes :
      (config.toBytes.drop 36).take 4 =
        leBytes 4 config.loggingInterval.toNat := by
    simp [toBytes, protectedBytes, name]
  have crcBytes :
      (config.toBytes.drop 124).take 4 = leBytes 4 config.crc.toNat := by
    rw [toBytes, List.drop_left' (length_protectedBytes config),
      List.take_of_length_le (by simp)]
  have size : deviceNameBufferLength = 32 := rfl
  have nameBytes : ∀ i (inside : i < deviceNameBufferLength),
      config.toBytes.getD (4 + i) 0 = config.deviceName[i] := by
    intro i inside
    rw [List.getD_eq_getElem?_getD, toBytes, protectedBytes]
    simp only [List.append_assoc]
    rw [List.getElem?_append_right (by simp),
      List.getElem?_append_left (by simp; omega)]
    simp [inside]
  have reserveBytes : ∀ i (inside : i < 84),
      config.toBytes.getD (40 + i) 0 = config.reserve2[i] := by
    intro i inside
    rw [List.getD_eq_getElem?_getD, toBytes, protectedBytes]
    simp only [List.append_assoc]
    rw [List.getElem?_append_right (by simp; omega),
      List.getElem?_append_right (by simp; omega),
      List.getElem?_append_right (by simp; omega),
      List.getElem?_append_left (by simp; omega)]
    simp [name, inside,
      show 40 + i - 4 - 32 - 4 = i by omega]
  rw [ofBytes, intervalBytes, crcBytes, ofNat_leValue_leBytes,
    ofNat_leValue_leBytes]
  have deviceName :
      (Vector.ofFn fun i : Fin deviceNameBufferLength =>
        config.toBytes.getD (4 + i.val) 0) = config.deviceName := by
    apply Vector.ext
    intro i inside
    rw [Vector.getElem_ofFn, nameBytes i inside]
  have reserve2 :
      (Vector.ofFn fun i : Fin 84 =>
        config.toBytes.getD (40 + i.val) 0) = config.reserve2 := by
    apply Vector.ext
    intro i inside
    rw [Vector.getElem_ofFn, reserveBytes i inside]
  rw [deviceName, reserve2]
  rfl

end SystemConfig

/-- `SETTINGS_VERSION` -/
def settingsVersion : Byte := 1

/-- The C string a buffer starts with. -/
def cString (buffer : List Byte) : List Byte :=
  buffer.takeWhile (· ≠ 0)

/-- `strncmp` finds no difference. -/
def strncmpEqual (left right : List Byte) (length : Nat) : Bool :=
  (cString left).take length = (cString right).take length

/-- Store bytes at the start of a device name buffer. -/
def overwriteName
    (buffer : Vector Byte deviceNameBufferLength) (bytes : List Byte) :
    Vector Byte deviceNameBufferLength :=
  Vector.ofFn fun i => bytes.getD i.val buffer[i]

/-- `strncpy` into a device name buffer; short strings are zero padded. -/
def strncpyName
    (buffer : Vector Byte deviceNameBufferLength) (source : List Byte)
    (length : Nat) : Vector Byte deviceNameBufferLength :=
  overwriteName buffer
    (((cString source).take length).rightpad length 0)

/-- `snprintf` of a text into a device name buffer. -/
def snprintfName
    (buffer : Vector Byte deviceNameBufferLength) (text : List Byte) :
    Vector Byte deviceNameBufferLength :=
  overwriteName buffer (text.take deviceNameMaxLen ++ [0])

/-- The characters of a text. -/
def asciiBytes (text : String) : List Byte :=
  text.toList.map fun character => UInt8.ofNat character.toNat

/-- `%02lx` of a value that fits in a byte. -/
def hexByte (value : Nat) : List Byte :=
  asciiBytes (String.ofList
    [Nat.digitChar (value / 16), Nat.digitChar (value % 16)])

/-- The device name from the production parameters. -/
def productionDeviceName : List Byte := asciiBytes "SHT43 DB"

/-- The text the default device name is made from. -/
def defaultDeviceName (uniqueDeviceId : UInt32) : List Byte :=
  let deviceId := uniqueDeviceId.toNat % 65536
  productionDeviceName ++ asciiBytes " " ++ hexByte (deviceId / 256) ++
    asciiBytes ":" ++ hexByte (deviceId % 256)

/-- A record of zeros. -/
def zeroSettings : SystemConfig where
  version := 0
  isLogEnabled := 0
  isAdvertiseDataEnabled := 0
  paddingByte := 0
  deviceName := Vector.replicate deviceNameBufferLength 0
  loggingInterval := 0
  reserve2 := Vector.replicate 84 0
  crc := 0

/-- The initial value of `_defaultSettings`. -/
def staticDefaultSettings : SystemConfig :=
  { zeroSettings with
    version := settingsVersion
    deviceName := overwriteName zeroSettings.deviceName productionDeviceName
    isLogEnabled := 0
    isAdvertiseDataEnabled := 1
    loggingInterval := 600000 }

/-- The variables of the settings controller module. -/
structure SettingsController where
  defaultSettings : SystemConfig
  actualSettings : SystemConfig
  settingsEnumerator : Enumerator
  deriving Repr, DecidableEq

namespace SettingsController

open ItemStore

/-- The variables after a reset. -/
def static : SettingsController where
  defaultSettings := staticDefaultSettings
  actualSettings := zeroSettings
  settingsEnumerator :=
    { hasMoreItems := false, startIndex := -1, enumeratorDetails := none }

/-- `Crc_ComputeCrc` -/
def crcComputeCrc (halCrc : List Byte → UInt32) (buffer : List Byte) :
    UInt32 :=
  halCrc buffer &&& 0xFF

/-- `ComputeCrcOnActualSetting` -/
def computeCrcOnActualSetting
    (halCrc : List Byte → UInt32) (controller : SettingsController) :
    UInt32 :=
  crcComputeCrc halCrc controller.actualSettings.protectedBytes

/--
`MESSAGE_ID_PERIPHERALS_INITIALIZED` completes the default device name; the
request to enumerate the settings it also publishes is dispatched later.
-/
def peripheralsInitialized
    (controller : SettingsController) (uniqueDeviceId : UInt32) :
    SettingsController :=
  { controller with
    defaultSettings :=
      { controller.defaultSettings with
        deviceName :=
          snprintfName controller.defaultSettings.deviceName
            (defaultDeviceName uniqueDeviceId) } }

/-- `_actualSettings = _defaultSettings` -/
def restoreDefaults (controller : SettingsController) :
    SettingsController :=
  { controller with actualSettings := controller.defaultSettings }

/-- `InitializeSettings` -/
def initializeSettings
    (halCrc : List Byte → UInt32) (state : ItemStoreState)
    (controller : SettingsController) (ready : Bool) :
    ItemStoreState × SettingsController :=
  if ¬ ready ∨ ¬ controller.settingsEnumerator.hasMoreItems then
    (state, controller.restoreDefaults)
  else
    let next := getNext state controller.settingsEnumerator
    let ended := endEnumerate next.1 .systemConfig next.2.1
    let controller :=
      { controller with
        settingsEnumerator := ended.2
        actualSettings :=
          match next.2.2 with
          | none => controller.actualSettings
          | some data => SystemConfig.ofBytes data }
    if computeCrcOnActualSetting halCrc controller ≠
        controller.actualSettings.crc then
      (ended.1, controller.restoreDefaults)
    else
      (ended.1, controller)

/--
The service requests the settings controller handles; the pointer to a device
name is resolved to the buffer it points to when the request is dispatched.
-/
inductive ServiceRequest where
  | saveLoggingInterval (loggingInterval : UInt32)
  | setAlternativeDeviceName (deviceName : List Byte)
  | setAdvertiseDataEnable (parameter : UInt32)
  | setDebugLogEnable (parameter : UInt32)
  deriving Repr, DecidableEq

/-- The byte in which a `bool` is stored. -/
def boolByte (parameter : UInt32) : Byte :=
  if parameter ≠ 0 then 1 else 0

/-- The checksum part of `UpdateAndNotify`. -/
def updateCrc
    (halCrc : List Byte → UInt32) (controller : SettingsController) :
    SettingsController :=
  { controller with
    actualSettings :=
      { controller.actualSettings with
        crc := computeCrcOnActualSetting halCrc controller } }

/--
What a service request changes in `_actualSettings`, or `none` where the value
is the actual one.
-/
def changeOf (settings : SystemConfig) :
    ServiceRequest → Option SystemConfig
  | .saveLoggingInterval loggingInterval =>
      if settings.loggingInterval = loggingInterval then
        none
      else
        some { settings with loggingInterval := loggingInterval }
  | .setAlternativeDeviceName deviceName =>
      if strncmpEqual deviceName settings.deviceName.toList
          deviceNameMaxLen then
        none
      else
        some
          { settings with
            deviceName :=
              strncpyName settings.deviceName deviceName deviceNameMaxLen }
  | .setAdvertiseDataEnable parameter =>
      if boolByte parameter = settings.isAdvertiseDataEnabled then
        none
      else
        some { settings with isAdvertiseDataEnabled := boolByte parameter }
  | .setDebugLogEnable parameter =>
      if boolByte parameter = settings.isLogEnabled then
        none
      else
        some { settings with isLogEnabled := boolByte parameter }

/--
`HandleBleServiceRequestCB`.  The second component tells whether
`UpdateAndNotify` has published the add of `_actualSettings` and the
notification about the change.
-/
def handleBleServiceRequest
    (halCrc : List Byte → UInt32) (controller : SettingsController)
    (request : ServiceRequest) : SettingsController × Bool :=
  match changeOf controller.actualSettings request with
  | none => (controller, false)
  | some settings =>
      (updateCrc halCrc { controller with actualSettings := settings }, true)

/--
The start of the firmware as far as the settings are concerned:
`ItemStore_Init`, the message `MESSAGE_ID_PERIPHERALS_INITIALIZED` and the
dispatch of the enumeration it requests.
-/
def boot
    (halCrc : List Byte → UInt32) (uniqueDeviceId : UInt32)
    (memory : ByteMemory.Memory) :
    Except AssertionFailure (ItemStoreState × SettingsController) := do
  let state ← init (powerOn memory)
  let controller := static.peripheralsInitialized uniqueDeviceId
  let state := registerCallback state .systemConfig .initializeSettings
  let handled ← listener state
    (.beginEnumerate .systemConfig controller.settingsEnumerator)
  match handled.enumeration with
  | none => .ok (handled.state, controller)
  | some started =>
      .ok (initializeSettings halCrc handled.state
        { controller with settingsEnumerator := started.enumerator }
        started.ready)

section Checksum

/-- The check sum unit after `Crc_Enable`. -/
def enabledUnit : Crc.CrcBlock :=
  Crc.acts Crc.CrcBlock.static (Crc.crcEnable Crc.CrcBlock.static.state)

/-- `HAL_CRC_Calculate` on the enabled unit. -/
def unitCrc (buffer : List Byte) : UInt32 :=
  UInt32.ofBitVec
    (Crc.readDr (Crc.acts enabledUnit (Crc.halCrcCalculate buffer)))

/-- With the unit for the parameter, the check sum is the one of the unit. -/
theorem crcComputeCrc_unitCrc (buffer : List Byte) :
    (crcComputeCrc unitCrc buffer).toBitVec =
      (Crc.crcComputeCrc enabledUnit buffer).1.setWidth 32 := by
  have mask : (0xFF : UInt32).toBitVec =
      (BitVec.allOnes 8).setWidth (24 + 8) := by
    decide
  have low := BitVec.and_setWidth_allOnes 24 8 (unitCrc buffer).toBitVec
  rw [crcComputeCrc, UInt32.toBitVec_and, mask]
  exact low.trans (BitVec.setWidth_eq_append (by decide)).symm

/-- The record `UpdateAndNotify` makes of the defaults for an interval. -/
def intervalRecord (loggingInterval : UInt32) : SystemConfig :=
  (updateCrc unitCrc
    { static with
      actualSettings :=
        { staticDefaultSettings with
          loggingInterval := loggingInterval } }).actualSettings

end Checksum

end SettingsController

end DemoBoard
