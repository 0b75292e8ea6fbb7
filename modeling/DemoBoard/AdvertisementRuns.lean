import DemoBoard.Advertisement
import DemoBoard.CriticalBattery

namespace DemoBoard

open ByteMemory TransitionRuns

/-!
# Runs of the advertisement

What a receiver reads in the buffers that were handed to the radio.  The
invariant writes the advertisement data as a function of what the BLE task has
heard, and says which buffer the radio has while it advertises.
-/

namespace Heard

/-- The ticks of a measurement. -/
def ticks? : Heard → Option (UInt16 × UInt16)
  | .measurement temperatureTicks humidityTicks =>
      some (temperatureTicks, humidityTicks)
  | .advertiseData _ => none

/-- If samples are to be advertised. -/
def enabled? : Heard → Option Bool
  | .measurement _ _ => none
  | .advertiseData enabled => some enabled

end Heard

/-- The ticks that were heard last. -/
def newestTicks (heard : List Heard) : UInt16 × UInt16 :=
  (heard.filterMap Heard.ticks?).getLast?.getD (0xFFFF, 0xFFFF)

/-- Samples are advertised until the BLE task hears that they are not. -/
def samplesAdvertised (heard : List Heard) : Bool :=
  (heard.filterMap Heard.enabled?).getLast?.getD true

theorem newestTicks_measurement
    (heard : List Heard)
    (temperatureTicks humidityTicks : UInt16) :
    newestTicks (heard ++ [.measurement temperatureTicks humidityTicks]) =
      (temperatureTicks, humidityTicks) := by
  simp [newestTicks, Heard.ticks?]

theorem newestTicks_advertiseData (heard : List Heard) (enabled : Bool) :
    newestTicks (heard ++ [.advertiseData enabled]) = newestTicks heard := by
  simp [newestTicks, Heard.ticks?]

theorem samplesAdvertised_measurement
    (heard : List Heard)
    (temperatureTicks humidityTicks : UInt16) :
    samplesAdvertised
        (heard ++ [.measurement temperatureTicks humidityTicks]) =
      samplesAdvertised heard := by
  simp [samplesAdvertised, Heard.enabled?]

theorem samplesAdvertised_advertiseData
    (heard : List Heard) (enabled : Bool) :
    samplesAdvertised (heard ++ [.advertiseData enabled]) = enabled := by
  simp [samplesAdvertised, Heard.enabled?]

/-- What a receiver knows of a demo board. -/
structure Advertised where
  name : List Byte
  deviceId : UInt16
  ticks : Option (UInt16 × UInt16)
  deriving Repr, DecidableEq

namespace Advertised

/-- `AD_TYPE_COMPLETE_LOCAL_NAME` -/
def completeLocalName : UInt8 := 0x09

/-- `AD_TYPE_MANUFACTURER_SPECIFIC_DATA` -/
def manufacturerSpecificData : UInt8 := 0xFF

/-- The value of the first field of a kind. -/
def valueOf (kind : UInt8) (fields : List TypedFields.Field) :
    Option (List Byte) :=
  (fields.find? fun field => field.kind == kind).map fun field => field.value

/-- The sixteen bits at an offset. -/
def word (bytes : List Byte) (offset : Nat) : UInt16 :=
  UInt16.ofNat (leValue ((bytes.drop offset).take 2))

/-- The samples in the manufacturer data of a demo board. -/
def readTicks (manufacturer : List Byte) : Option (UInt16 × UInt16) :=
  if (manufacturer.drop 2).take 2 = [0x00, 0x06] ∧
      manufacturer.length = 10 then
    some (word manufacturer 6, word manufacturer 8)
  else
    none

/-- Read an advertisement. -/
def read (buffer : List Byte) : Option Advertised := do
  let fields ← TypedFields.parse buffer
  let name ← valueOf completeLocalName fields
  let manufacturer ← valueOf manufacturerSpecificData fields
  if word manufacturer 0 = 0x06D5 then
    some
      { name := name
        deviceId :=
          UInt16.ofNat (leValue ((manufacturer.drop 4).take 2).reverse)
        ticks := readTicks manufacturer }
  else
    none

end Advertised

section AdvertisementRuns

variable (uniqueDeviceId : UInt32)

/-- What is to be advertised after something was heard. -/
def advertisementOf (heard : List Heard) : Advertised where
  name := CompleteAdvertisementData.deviceName
  deviceId := uniqueDeviceId.toUInt16
  ticks :=
    if samplesAdvertised heard then
      some (newestTicks heard)
    else
      none

/-- `gCompleteAdvData` after something was heard. -/
def dataOf (heard : List Heard) : CompleteAdvertisementData :=
  { CompleteAdvertisementData.started uniqueDeviceId with
    adTypeManufacturerSize :=
      if samplesAdvertised heard then
        CompleteAdvertisementData.longManufacturerLength
      else
        CompleteAdvertisementData.shortManufacturerLength
    sAdvT := if samplesAdvertised heard then 0x00 else 0xFF
    sampleType := if samplesAdvertised heard then 0x06 else 0x00
    temperatureTicks := (newestTicks heard).1
    humidityTicks := (newestTicks heard).2 }

/-- `advertisementDataSize` after something was heard. -/
def sizeOf (heard : List Heard) : Nat :=
  if samplesAdvertised heard then
    CompleteAdvertisementData.longLength
  else
    CompleteAdvertisementData.shortLength

/-- The samples in the manufacturer data after something was heard. -/
def samplesOf (heard : List Heard) : List Byte :=
  if samplesAdvertised heard then
    leBytes 2 (newestTicks heard).1.toNat ++
      leBytes 2 (newestTicks heard).2.toNat
  else
    []

/-- The manufacturer data after something was heard. -/
def manufacturerOf (heard : List Heard) : List Byte :=
  0xD5 :: 0x06 :: (if samplesAdvertised heard then 0x00 else 0xFF) ::
    (if samplesAdvertised heard then 0x06 else 0x00) ::
    (uniqueDeviceId.toUInt16 >>> 8).toUInt8 ::
    uniqueDeviceId.toUInt16.toUInt8 :: samplesOf heard

/-- The fields of an advertisement after something was heard. -/
def fieldsOf (heard : List Heard) : List TypedFields.Field :=
  [{ kind := 0x01, value := [0x06] },
    { kind := Advertised.completeLocalName
      value := CompleteAdvertisementData.deviceName },
    { kind := Advertised.manufacturerSpecificData
      value := manufacturerOf uniqueDeviceId heard }]

/-- The first bytes of the advertisement data are whole fields. -/
theorem encode_fieldsOf (heard : List Heard) :
    TypedFields.encode (fieldsOf uniqueDeviceId heard) =
      (dataOf uniqueDeviceId heard).toBytes.take
        (sizeOf heard) := by
  cases advertised : samplesAdvertised heard with
  | true =>
      simp [TypedFields.encode, TypedFields.Field.encode, fieldsOf,
        manufacturerOf, samplesOf, dataOf, advertised, sizeOf, leBytes,
        CompleteAdvertisementData.toBytes,
        CompleteAdvertisementData.started,
        CompleteAdvertisementData.deviceName,
        CompleteAdvertisementData.longManufacturerLength,
        CompleteAdvertisementData.longLength,
        Advertised.completeLocalName, Advertised.manufacturerSpecificData]
  | false =>
      simp [TypedFields.encode, TypedFields.Field.encode, fieldsOf,
        manufacturerOf, samplesOf, dataOf, advertised, sizeOf, leBytes,
        CompleteAdvertisementData.toBytes,
        CompleteAdvertisementData.started,
        CompleteAdvertisementData.deviceName,
        CompleteAdvertisementData.shortManufacturerLength,
        CompleteAdvertisementData.shortLength,
        CompleteAdvertisementData.longLength,
        Advertised.completeLocalName, Advertised.manufacturerSpecificData]

theorem length_samplesOf (heard : List Heard) :
    (samplesOf heard).length = if samplesAdvertised heard then 4 else 0 := by
  unfold samplesOf
  split <;> simp

/-- The fields of an advertisement fit. -/
theorem fieldsOf_fit (heard : List Heard) :
    ∀ field ∈ fieldsOf uniqueDeviceId heard,
      field.value.length < 255 := by
  have samples : (samplesOf heard).length < 249 := by
    rw [length_samplesOf]
    split <;> decide
  simp only [fieldsOf, manufacturerOf, List.forall_mem_cons,
    List.length_cons, List.length_nil]
  refine ⟨by decide, by decide, by omega, ?_⟩
  simp

theorem word_leBytes (value : UInt16) :
    UInt16.ofNat (leValue (leBytes 2 value.toNat)) = value := by
  have small : value.toNat < 256 ^ 2 := value.toNat_lt
  rw [leValue_leBytes, Nat.mod_eq_of_lt small, UInt16.ofNat_toNat]

/-- The device identifier is stored with its most significant byte first. -/
theorem word_bigEndian (value : UInt16) :
    UInt16.ofNat
        (leValue [(value >>> 8).toUInt8, value.toUInt8].reverse) =
      value := by
  apply UInt16.toNat_inj.mp
  have small := value.toNat_lt
  simp [leValue, UInt16.toNat_shiftRight, Nat.shiftRight_eq_div_pow]
  omega

/-- The receiver finds the samples exactly if they are advertised. -/
theorem readTicks_manufacturerOf (heard : List Heard) :
    Advertised.readTicks (manufacturerOf uniqueDeviceId heard) =
      if samplesAdvertised heard then some (newestTicks heard) else none := by
  cases advertised : samplesAdvertised heard with
  | true =>
      have second : (leBytes 2 (newestTicks heard).2.toNat).take 2 =
          leBytes 2 (newestTicks heard).2.toNat :=
        List.take_of_length_le (length_leBytes _ _).le
      simp [Advertised.readTicks, manufacturerOf, Advertised.word, samplesOf,
        advertised, second, word_leBytes]
  | false =>
      simp [Advertised.readTicks, manufacturerOf, advertised]

/-- A receiver reads what was heard last. -/
theorem read_encode (heard : List Heard) :
    Advertised.read
        ((dataOf uniqueDeviceId heard).toBytes.take
          (sizeOf heard)) =
      some (advertisementOf uniqueDeviceId heard) := by
  have named : Advertised.valueOf Advertised.completeLocalName
      (fieldsOf uniqueDeviceId heard) =
        some CompleteAdvertisementData.deviceName := rfl
  have manufactured : Advertised.valueOf Advertised.manufacturerSpecificData
      (fieldsOf uniqueDeviceId heard) =
        some (manufacturerOf uniqueDeviceId heard) := rfl
  have company :
      Advertised.word (manufacturerOf uniqueDeviceId heard) 0 = 0x06D5 := rfl
  have device : UInt16.ofNat (leValue
      (((manufacturerOf uniqueDeviceId heard).drop 4).take 2).reverse) =
        uniqueDeviceId.toUInt16 :=
    word_bigEndian uniqueDeviceId.toUInt16
  rw [← encode_fieldsOf, Advertised.read,
    TypedFields.parse_encode (fieldsOf_fit uniqueDeviceId heard)]
  simp only [Option.bind_eq_bind, Option.bind_some, named, manufactured,
    if_pos company, device, readTicks_manufacturerOf, advertisementOf]

theorem length_dataOf (heard : List Heard) :
    (dataOf uniqueDeviceId heard).toBytes.length = 25 := by
  simp [CompleteAdvertisementData.toBytes, dataOf,
    CompleteAdvertisementData.started, CompleteAdvertisementData.deviceName]

theorem dataOf_measurement
    (heard : List Heard) (temperatureTicks humidityTicks : UInt16) :
    dataOf uniqueDeviceId
        (heard ++ [.measurement temperatureTicks humidityTicks]) =
      { dataOf uniqueDeviceId heard with
        temperatureTicks := temperatureTicks
        humidityTicks := humidityTicks } := by
  simp only [dataOf, newestTicks_measurement, samplesAdvertised_measurement]

theorem sizeOf_measurement
    (heard : List Heard) (temperatureTicks humidityTicks : UInt16) :
    sizeOf (heard ++ [.measurement temperatureTicks humidityTicks]) =
      sizeOf heard := by
  simp only [sizeOf, samplesAdvertised_measurement]

end AdvertisementRuns

/-- A cancellation does not start to advertise. -/
theorem advertiseCancel_advertising
    {gap : BleGap}
    {answers : Answers}
    (advertises :
      (gap.advertiseCancel answers).context.deviceConnectionStatus =
        .advertising) :
    gap.context.deviceConnectionStatus = .advertising := by
  unfold BleGap.advertiseCancel at advertises
  dsimp only at advertises
  split at advertises
  · split at advertises
    · cases advertises
    · exact advertises
  · exact advertises

theorem switchBleOff_advertising
    {ble : BleSubsystem}
    {answers : Answers}
    (advertises :
      (ble.switchBleOff answers).ble.gap.context.deviceConnectionStatus =
        .advertising) :
    ble.gap.context.deviceConnectionStatus = .advertising := by
  unfold BleSubsystem.switchBleOff at advertises
  dsimp only at advertises
  split at advertises
  · exact advertiseCancel_advertising advertises
  · exact advertiseCancel_advertising advertises

/-- The status says that the radio advertises. -/
theorem BleSubsystem.Sound.advertising
    {ble : BleSubsystem}
    (sound : ble.Sound)
    (advertises : ble.gap.radio.advertising ≠ none) :
    ble.gap.context.deviceConnectionStatus = .advertising := by
  cases sound.agrees with
  | idle _ silent => exact absurd silent advertises
  | advertising status => exact status
  | connected _ silent => exact absurd silent advertises

/-- Without a request the BLE task does not start to advertise. -/
theorem handleBleMessage_advertising
    {ble : BleSubsystem}
    {answers : Answers}
    {message : Message}
    (quiet : AdvertisedBle.requestsAdvertising ble message = false)
    (advertises :
      (ble.handleBleMessage answers
        message).ble.gap.context.deviceConnectionStatus = .advertising) :
    ble.gap.context.deviceConnectionStatus = .advertising := by
  unfold BleSubsystem.handleBleMessage at advertises
  unfold AdvertisedBle.requestsAdvertising at quiet
  split at advertises
  · exact advertises
  · cases handler : ble.handler with
    | bleDefaultState =>
        simp only [handler, decide_eq_false_iff_not, not_or] at quiet
        simp only [handler, BleSubsystem.bleDefaultState] at advertises
        split at advertises
        · split at advertises
          · exact advertises
          · rename_i sensor measured
            exact absurd ⟨sensor.1, sensor.2, measured⟩ quiet.1
        · split at advertises
          · exact advertiseCancel_advertising advertises
          · split at advertises
            · rename_i requested
              exact absurd requested quiet.2
            · split at advertises
              · exact switchBleOff_advertising advertises
              · split at advertises
                · exact switchBleOff_advertising advertises
                · exact advertises
    | bleDisabledState =>
        simp only [handler, decide_eq_false_iff_not] at quiet
        simp only [handler, BleSubsystem.bleDisabledState] at advertises
        split at advertises
        · rename_i longPress
          split at advertises
          · exact advertises
          · rename_i usable
            exact absurd ⟨longPress, usable⟩ quiet
        · exact advertises

namespace AdvertisedBle

section Runs

variable {uniqueDeviceId : UInt32}

/-- The buffer holds what was heard before it was handed to the radio. -/
def Holds (uniqueDeviceId : UInt32) (handover : Handover) : Prop :=
  handover.buffer =
    (dataOf uniqueDeviceId handover.heard).toBytes.take
      (sizeOf handover.heard)

/-- Nothing was measured after a part of what was heard. -/
def NothingMeasuredSince (earlier heard : List Heard) : Prop :=
  ∃ later, heard = earlier ++ later ∧ later.filterMap Heard.ticks? = []

/-- The advertisement is a function of what was heard. -/
structure Described (uniqueDeviceId : UInt32) (state : AdvertisedBle) :
    Prop where
  data : state.data = dataOf uniqueDeviceId state.heard
  size : state.advertisementDataSize = sizeOf state.heard
  holds : ∀ handover ∈ state.handed,
    Holds uniqueDeviceId handover

/-- The radio has a buffer with the newest measurement if it advertises. -/
def Fresh (state : AdvertisedBle) : Prop :=
  state.ble.gap.context.deviceConnectionStatus = .advertising →
    ∃ handover, state.handed.getLast? = some handover ∧
      NothingMeasuredSince handover.heard state.heard

theorem Described.started :
    Described uniqueDeviceId
      (started uniqueDeviceId) where
  data := rfl
  size := rfl
  holds := by simp [AdvertisedBle.started]

/-- The rest of the BLE subsystem has no part in it. -/
theorem Described.withBle
    {state : AdvertisedBle}
    (described : Described uniqueDeviceId state)
    (ble : BleSubsystem) :
    Described uniqueDeviceId { state with ble := ble } :=
  ⟨described.data, described.size, described.holds⟩

/-- The flag and what was heard about it agree. -/
theorem Described.updateAdvertiseSamplesEnable
    {state : AdvertisedBle}
    (described : Described uniqueDeviceId state)
    (enabled : Bool) :
    Described uniqueDeviceId
      { state.updateAdvertiseSamplesEnable enabled with
        heard := state.heard ++ [.advertiseData enabled] } where
  data := by
    cases enabled <;>
      simp [AdvertisedBle.updateAdvertiseSamplesEnable, described.data,
        dataOf, newestTicks_advertiseData, samplesAdvertised_advertiseData]
  size := by
    cases enabled <;>
      simp [AdvertisedBle.updateAdvertiseSamplesEnable, sizeOf,
        samplesAdvertised_advertiseData]
  holds := by
    cases enabled <;> exact described.holds

theorem Described.hear
    {state : AdvertisedBle}
    (described : Described uniqueDeviceId state)
    (message : Message)
    (isAdvertiseDataEnabled : Bool) :
    Described uniqueDeviceId
      (state.hear message isAdvertiseDataEnabled) := by
  unfold AdvertisedBle.hear
  split
  · exact
      { data := by
          simp only [described.data, dataOf_measurement]
        size := by
          simp only [described.size, sizeOf_measurement]
        holds := described.holds }
  · split
    · exact described.updateAdvertiseSamplesEnable _
    · split
      · exact described.updateAdvertiseSamplesEnable _
      · exact described

theorem Described.listen
    {state : AdvertisedBle}
    (described : Described uniqueDeviceId state)
    (message : Message)
    (isAdvertiseDataEnabled : Bool) :
    Described uniqueDeviceId
      (state.listen message isAdvertiseDataEnabled) := by
  unfold AdvertisedBle.listen
  split
  · exact described.hear message isAdvertiseDataEnabled
  · exact described

theorem Described.handOver
    {state : AdvertisedBle}
    (described : Described uniqueDeviceId state) :
    Described uniqueDeviceId state.handOver := by
  unfold AdvertisedBle.handOver
  split
  · refine { described with holds := ?_ }
    intro handover handed
    rcases List.mem_append.mp handed with earlier | now
    · exact described.holds handover earlier
    · rw [List.mem_singleton.mp now, Holds, described.data, described.size]
  · exact described

/-- A request to advertise hands over what is heard, if it advertises. -/
theorem Fresh.handOver (state : AdvertisedBle) : Fresh state.handOver := by
  unfold AdvertisedBle.handOver
  split
  · intro _
    refine ⟨_, List.getLast?_concat .., [], ?_, rfl⟩
    rw [List.append_nil]
  · rename_i quiet
    intro advertises
    exact absurd advertises quiet

theorem listen_handed
    (state : AdvertisedBle)
    (message : Message)
    (isAdvertiseDataEnabled : Bool) :
    (state.listen message isAdvertiseDataEnabled).handed =
      state.handed := by
  have updated (enabled : Bool) :
      (state.updateAdvertiseSamplesEnable enabled).handed = state.handed := by
    cases enabled <;> rfl
  unfold listen
  split
  · unfold hear
    split
    · rfl
    · split
      · exact updated _
      · split
        · exact updated _
        · rfl
  · rfl

theorem Described.handleBleMessage
    {state : AdvertisedBle}
    (described : Described uniqueDeviceId state)
    (answers : Answers)
    (isAdvertiseDataEnabled : Bool)
    (message : Message) :
    Described uniqueDeviceId
      (state.handleBleMessage answers isAdvertiseDataEnabled message) := by
  have heard := described.listen message isAdvertiseDataEnabled
  unfold AdvertisedBle.handleBleMessage
  dsimp only
  split
  · exact described.withBle _
  · split
    · exact (heard.withBle _).handOver
    · exact heard.withBle _

/-- What the BLE task hears without a request is no measurement. -/
theorem nothingMeasured_of_quiet
    {state : AdvertisedBle}
    {message : Message}
    (quiet : requestsAdvertising state.ble message = false)
    (isAdvertiseDataEnabled : Bool) :
    NothingMeasuredSince state.heard
      (state.listen message isAdvertiseDataEnabled).heard := by
  cases handler : state.ble.handler with
  | bleDefaultState =>
      simp only [requestsAdvertising, handler, decide_eq_false_iff_not,
        not_or] at quiet
      simp only [listen, handler, hear]
      split
      · rename_i measured
        exact absurd measured quiet.1
      · split
        · exact ⟨[_], rfl, rfl⟩
        · split
          · exact ⟨[_], rfl, rfl⟩
          · exact ⟨[], (List.append_nil _).symm, rfl⟩
  | bleDisabledState =>
      simp only [listen, handler]
      exact ⟨[], (List.append_nil _).symm, rfl⟩

theorem NothingMeasuredSince.trans
    {first second third : List Heard}
    (before : NothingMeasuredSince first second)
    (after : NothingMeasuredSince second third) :
    NothingMeasuredSince first third := by
  obtain ⟨earlier, rfl, noneEarlier⟩ := before
  obtain ⟨later, rfl, noneLater⟩ := after
  refine ⟨earlier ++ later, List.append_assoc .., ?_⟩
  rw [List.filterMap_append, noneEarlier, noneLater, List.append_nil]

theorem Fresh.handleBleMessage
    {state : AdvertisedBle}
    (fresh : Fresh state)
    (answers : Answers)
    (isAdvertiseDataEnabled : Bool)
    (message : Message) :
    Fresh
      (state.handleBleMessage answers isAdvertiseDataEnabled message) := by
  unfold AdvertisedBle.handleBleMessage
  dsimp only
  split
  · rename_i ignored
    simp only [BleSubsystem.handleBleMessage, if_pos ignored]
    exact fresh
  · split
    · exact Fresh.handOver _
    · rename_i requested
      have quiet : requestsAdvertising state.ble message = false := by
        simpa using requested
      intro advertises
      obtain ⟨handover, newest, since⟩ :=
        fresh (handleBleMessage_advertising quiet advertises)
      refine ⟨handover, ?_, since.trans
        (nothingMeasured_of_quiet quiet isAdvertiseDataEnabled)⟩
      rw [listen_handed]
      exact newest

theorem Described.step
    {state next : AdvertisedBle}
    (described : Described uniqueDeviceId state)
    {event : Event}
    (moves : state.step event = some next) :
    Described uniqueDeviceId next := by
  cases event with
  | app message =>
      cases moves
      exact described.withBle _
  | publish message =>
      cases moves
      exact described.withBle _
  | dispatch answers isAdvertiseDataEnabled =>
      simp only [AdvertisedBle.step] at moves
      cases taken : state.ble.queue.dequeue.2 with
      | none =>
          simp only [taken] at moves
          cases moves
          exact described
      | some message =>
          simp only [taken] at moves
          cases moves
          exact (described.withBle _).handleBleMessage ..
  | connect handle =>
      obtain ⟨ble, connected, rfl⟩ := Option.map_eq_some_iff.mp moves
      exact described.withBle _
  | disconnect answers =>
      obtain ⟨ble, disconnected, rfl⟩ := Option.map_eq_some_iff.mp moves
      exact (described.withBle ble).handOver

theorem Fresh.step
    {state next : AdvertisedBle}
    (fresh : Fresh state)
    {event : Event}
    (moves : state.step event = some next) :
    Fresh next := by
  cases event with
  | app message =>
      cases moves
      intro advertises
      exact fresh
        ((BleSubsystem.receiveAppMessage_extended ..).status ▸ advertises)
  | publish message =>
      cases moves
      exact fresh
  | dispatch answers isAdvertiseDataEnabled =>
      simp only [AdvertisedBle.step] at moves
      cases taken : state.ble.queue.dequeue.2 with
      | none =>
          simp only [taken] at moves
          cases moves
          exact fresh
      | some message =>
          simp only [taken] at moves
          cases moves
          have taken : Fresh
              { state with
                ble :=
                  { state.ble with queue := state.ble.queue.dequeue.1 } } :=
            fresh
          exact taken.handleBleMessage answers isAdvertiseDataEnabled message
  | connect handle =>
      obtain ⟨ble, connected, rfl⟩ := Option.map_eq_some_iff.mp moves
      simp only [BleSubsystem.step] at connected
      split at connected
      · cases connected
      · cases connected
        intro advertises
        simp only [BleSubsystem.connectionComplete] at advertises
        split at advertises <;> cases advertises
  | disconnect answers =>
      obtain ⟨ble, disconnected, rfl⟩ := Option.map_eq_some_iff.mp moves
      exact Fresh.handOver _

/--
In every run a receiver reads in each buffer the name, the device identifier
and, unless the user does not want it, the measurement that was heard last.
While the radio advertises, it has the newest measurement.
-/
theorem advertisement_read
    {events : List Event}
    {state : AdvertisedBle}
    (run : Run (system uniqueDeviceId) events state) :
    (∀ handover ∈ state.handed,
      handover.buffer.length ≤ 31 ∧
        Advertised.read handover.buffer =
          some (advertisementOf uniqueDeviceId handover.heard)) ∧
      (state.ble.gap.radio.advertising ≠ none →
        ∃ handover, state.handed.getLast? = some handover ∧
          handover.heard <+: state.heard ∧
          newestTicks handover.heard = newestTicks state.heard) := by
  have described : Described uniqueDeviceId state := by
    refine run.invariant ?_ ?_
    · rintro first rfl
      exact .started
    · intro state event next described moves
      exact described.step moves
  have fresh : Fresh state := by
    refine run.invariant ?_ ?_
    · rintro first rfl advertises
      cases advertises
    · intro state event next fresh moves
      exact fresh.step moves
  have sound : state.ble.Sound := by
    refine @Run.invariant _ _ _ (fun state => state.ble.Sound) ?_ ?_ _ _ run
    · rintro first rfl
      exact BleSubsystem.started_sound
    · intro state event next sound moves
      exact sound.step (step_ble moves)
  constructor
  · intro handover handed
    have held : handover.buffer =
        (dataOf uniqueDeviceId handover.heard).toBytes.take
          (sizeOf handover.heard) :=
      described.holds handover handed
    constructor
    · have short := List.length_take_le' (sizeOf handover.heard)
        (dataOf uniqueDeviceId handover.heard).toBytes
      rw [length_dataOf] at short
      rw [held]
      omega
    · rw [held, read_encode]
  · intro advertises
    obtain ⟨handover, last, later, whole, nothing⟩ :=
      fresh (sound.advertising advertises)
    refine ⟨handover, last, ⟨later, whole.symm⟩, ?_⟩
    rw [whole, newestTicks, newestTicks, List.filterMap_append, nothing,
      List.append_nil]

/-- A message about a measurement. -/
def measurementMessage (ticks : UInt32) : Message where
  id := sensorDataId
  parameter1 := 1
  category := Category.sensorValue
  parameter2 := ticks

/-- The answer to the request not to advertise samples. -/
def hideMessage : Message where
  id := BleInterface.svcReqResponse
  parameter1 := setAdvertiseDataEnable
  category := Category.bleEvent
  parameter2 := 0

/-- Two measurements, and the second one is not to be advertised. -/
def hidingRun : List Event :=
  [.app (measurementMessage 0x80006000),
    .dispatch { setDiscoverable := true, setNonDiscoverable := true } true,
    .publish hideMessage,
    .dispatch { setDiscoverable := true, setNonDiscoverable := true } true,
    .app (measurementMessage 0x90007000),
    .dispatch { setDiscoverable := true, setNonDiscoverable := true } true]

theorem hidingRun_result :
    (hidingRun.foldlM step (started 0x1234)).map (fun state =>
        state.handed.map fun handover =>
          advertisementOf 0x1234 handover.heard) =
      some
        [{ name := CompleteAdvertisementData.deviceName
           deviceId := 0x1234
           ticks := some (0x6000, 0x8000) },
          { name := CompleteAdvertisementData.deviceName
            deviceId := 0x1234
            ticks := none }] := by
  decide +kernel

theorem advertisement_read_hidden :
    ∃ state, hidingRun.foldlM step (started 0x1234) = some state ∧
      state.handed.map (fun handover => Advertised.read handover.buffer) =
        [some
            { name := CompleteAdvertisementData.deviceName
              deviceId := 0x1234
              ticks := some (0x6000, 0x8000) },
          some
            { name := CompleteAdvertisementData.deviceName
              deviceId := 0x1234
              ticks := none }] := by
  obtain ⟨state, ran, result⟩ := Option.map_eq_some_iff.mp hidingRun_result
  have run : Run (system 0x1234) hidingRun state :=
    Run.ofSteps hidingRun (.start rfl) ran
  obtain ⟨reads, _⟩ := advertisement_read run
  refine ⟨state, ran, ?_⟩
  rw [List.map_congr_left fun handover handed => (reads handover handed).2]
  exact (List.map_map ..).symm.trans (congrArg (List.map some) result)

end Runs

end AdvertisedBle

end DemoBoard
