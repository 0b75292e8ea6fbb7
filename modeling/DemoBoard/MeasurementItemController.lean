import DemoBoard.ItemStore

namespace DemoBoard

open ByteMemory

/-!
# Measurement item controller

Model of `app_service/item_store/MeasurementItemController.c`.  The moving
averages are computed in floating point; the ticks they round to come with the
time event that reads them.  Messages a handler publishes are part of its
result.
-/

/-- A sample of `ItemStore_MeasurementSample_t`. -/
structure SampleTicks where
  temperatureTicks : UInt16
  humidityTicks : UInt16
  deriving Repr, DecidableEq

/-- `ItemStore_MeasurementSample_t` -/
structure MeasurementSample where
  first : SampleTicks
  second : SampleTicks
  deriving Repr, DecidableEq

/-- Memory image of a sample. -/
def SampleTicks.toBytes (ticks : SampleTicks) : List Byte :=
  leBytes 2 ticks.temperatureTicks.toNat ++
    leBytes 2 ticks.humidityTicks.toNat

/-- Memory image of an item with two samples. -/
def MeasurementSample.toBytes (samples : MeasurementSample) : List Byte :=
  samples.first.toBytes ++ samples.second.toBytes

@[simp] theorem MeasurementSample.length_toBytes
    (samples : MeasurementSample) :
    samples.toBytes.length = 8 := by
  simp [MeasurementSample.toBytes, SampleTicks.toBytes]

/-- `BleTypes_SamplesMetaData_t` -/
structure SamplesMetaData where
  loggingIntervalMs : UInt32
  ageOfLatestSample : UInt32
  numberOfSamples : Nat
  deriving Repr, DecidableEq

/-- The number of elements of `samplesCache`. -/
def samplesCacheSize : Nat := 510

/-- `SampleRequestData_t`; the cache is what its address range holds. -/
structure SampleRequestData where
  metadata : SamplesMetaData
  enumeratorStartIndex : Nat
  requestedNrOfSamples : Nat
  alreadyReadSamples : Nat
  extraSample : Nat
  samplesCache : Memory
  /-- `responseData.dataLength`; its data pointer is the cache. -/
  dataLength : Nat

/-- The initial value of `_sampleRequest`. -/
def SampleRequestData.static : SampleRequestData where
  metadata :=
    { loggingIntervalMs := 0, ageOfLatestSample := 0, numberOfSamples := 0 }
  enumeratorStartIndex := 0
  requestedNrOfSamples := 0
  alreadyReadSamples := 0
  extraSample := 0
  samplesCache := fun _ => 0
  dataLength := 0

/-- The fields of `MeasurementItemController_t` without the averages. -/
structure MeasurementItemController where
  loggingIntervalS : Int
  remainingTimeS : Int
  isAddItemPossible : Bool
  nrOfPendingErase : Int
  isSampleReady : Bool
  currentSampleIndex : Nat
  isLoggingIntervalChanged : Bool
  samples : MeasurementSample
  deriving Repr, DecidableEq

namespace MeasurementItemController

/-- A sample of zeros. -/
def zeroTicks : SampleTicks where
  temperatureTicks := 0
  humidityTicks := 0

/-- The initial value of `_measurementItemController`. -/
def static : MeasurementItemController where
  loggingIntervalS := 60
  remainingTimeS := 60
  isAddItemPossible := true
  nrOfPendingErase := 0
  isSampleReady := false
  currentSampleIndex := 0
  isLoggingIntervalChanged := false
  samples := { first := zeroTicks, second := zeroTicks }

/-- The conversion to a `uint32_t`. -/
def toUInt32 (value : Int) : UInt32 :=
  UInt32.ofNat (value % 2 ^ 32).toNat

/-- The conversion of a value that fits. -/
theorem toNat_toUInt32
    {value : Int}
    (nonneg : 0 ≤ value)
    (small : value < 2 ^ 32) :
    ((toUInt32 value).toNat : Int) = value := by
  rw [toUInt32, UInt32.toNat_ofNat', Int.emod_eq_of_lt nonneg small]
  omega

/-- The conversion to an `int8_t`. -/
def toInt8 (value : Int) : Int :=
  (value + 128) % 256 - 128

/-- The messages the controller publishes to the application. -/
inductive Published where
  /-- `ItemStore_AddItem` of the samples of the controller. -/
  | addSamples
  /-- `SERVICE_REQUEST_MESSAGE_ID_SAVE_LOGGING_INTERVAL` -/
  | saveLoggingInterval (loggingInterval : UInt32)
  /-- `ITEM_STORE_MESSAGE_ERASE`, by `ItemStore_DeleteAllItems`. -/
  | erase (parameters : EraseParameters)
  deriving Repr, DecidableEq

/-- `SaveReadySamples` -/
def saveReadySamples
    (controller : MeasurementItemController) (canAddItem : Bool) :
    MeasurementItemController × List Published :=
  if controller.isSampleReady ∧ canAddItem then
    ({ controller with isSampleReady := false }, [.addSamples])
  else
    (controller, [])

/-- Store ticks at an index of the samples. -/
def setSample
    (samples : MeasurementSample) (index : Nat) (ticks : SampleTicks) :
    MeasurementSample :=
  if index = 0 then
    { samples with first := ticks }
  else
    { samples with second := ticks }

/-- `EvalTimeEvent` -/
def evalTimeEvent
    (controller : MeasurementItemController) (elapsed : Nat)
    (averages : SampleTicks) (canAddItem : Bool) :
    MeasurementItemController × List Published :=
  let remainingTimeS := controller.remainingTimeS - elapsed
  let controller :=
    if remainingTimeS ≤ 0 then
      let currentSampleIndex := (controller.currentSampleIndex + 1) % 2
      { controller with
        remainingTimeS := controller.loggingIntervalS
        samples :=
          setSample controller.samples controller.currentSampleIndex averages
        currentSampleIndex := currentSampleIndex
        -- don't clear if already set
        isSampleReady :=
          controller.isSampleReady || currentSampleIndex == 0 }
    else
      { controller with remainingTimeS := remainingTimeS }
  saveReadySamples controller canAddItem

/-- `MESSAGE_ID_DEVICE_SETTINGS_READ` -/
def deviceSettingsRead
    (controller : MeasurementItemController) (loggingInterval : UInt32) :
    MeasurementItemController :=
  { controller with loggingIntervalS := loggingInterval.toNat / 1000 }

/-- The logging interval in milliseconds, as it is saved. -/
def loggingIntervalMs (controller : MeasurementItemController) : UInt32 :=
  toUInt32 (controller.loggingIntervalS * 1000)

/-- `ITEM_STORE_MESSAGE_ERASE` -/
def erase (controller : MeasurementItemController) :
    MeasurementItemController :=
  { controller with
    nrOfPendingErase := toInt8 (controller.nrOfPendingErase + 1)
    isAddItemPossible := false }

/-- `ITEM_STORE_MESSAGE_ERASE_DONE` -/
def eraseDone (controller : MeasurementItemController) :
    MeasurementItemController × List Published :=
  let nrOfPendingErase := toInt8 (controller.nrOfPendingErase - 1)
  let nrOfPendingErase :=
    if nrOfPendingErase < 0 then 0 else nrOfPendingErase
  let controller :=
    { controller with
      nrOfPendingErase := nrOfPendingErase
      isAddItemPossible := nrOfPendingErase = 0 }
  if controller.isAddItemPossible then
    if controller.isLoggingIntervalChanged then
      ({ controller with isLoggingIntervalChanged := false },
        [.saveLoggingInterval controller.loggingIntervalMs])
    else
      saveReadySamples controller controller.isAddItemPossible
  else
    (controller, [])

/-- The end of an erase, after the pending erases are counted. -/
theorem eraseDone_eq (controller : MeasurementItemController) :
    ∃ count : Int,
      let counted : MeasurementItemController :=
        { controller with
          nrOfPendingErase := count
          isAddItemPossible := count = 0 }
      controller.eraseDone =
        if counted.isAddItemPossible then
          if counted.isLoggingIntervalChanged then
            ({ counted with isLoggingIntervalChanged := false },
              [.saveLoggingInterval counted.loggingIntervalMs])
          else
            saveReadySamples counted counted.isAddItemPossible
        else
          (counted, []) :=
  ⟨_, rfl⟩

/-- A handler that at most saves samples. -/
structure SavesSamples
    (before : MeasurementItemController)
    (outcome : MeasurementItemController × List Published) : Prop where
  loggingIntervalS : outcome.1.loggingIntervalS = before.loggingIntervalS
  changed :
    outcome.1.isLoggingIntervalChanged = before.isLoggingIntervalChanged
  pending : outcome.1.nrOfPendingErase = before.nrOfPendingErase
  possible : outcome.1.isAddItemPossible = before.isAddItemPossible
  published : outcome.2 = [] ∨ outcome.2 = [.addSamples]

theorem saveReadySamples_saves
    (controller : MeasurementItemController)
    (canAddItem : Bool) :
    SavesSamples controller (saveReadySamples controller canAddItem) := by
  rw [saveReadySamples]
  split
  · exact ⟨rfl, rfl, rfl, rfl, .inr rfl⟩
  · exact ⟨rfl, rfl, rfl, rfl, .inl rfl⟩

theorem evalTimeEvent_saves
    (controller : MeasurementItemController)
    (elapsed : Nat)
    (averages : SampleTicks)
    (canAddItem : Bool) :
    SavesSamples controller
      (evalTimeEvent controller elapsed averages canAddItem) := by
  simp only [evalTimeEvent]
  split
  · exact { saveReadySamples_saves _ canAddItem with }
  · exact { saveReadySamples_saves _ canAddItem with }

/-- The interval in seconds that is set for a requested one. -/
def requestedIntervalS (parameter : UInt32) : Int :=
  let newInterval : Int := (parameter.toNat / 10000 * 10 : Nat)
  if newInterval < 10 then 10 else newInterval

/-- An interval that can be set. -/
theorem requestedIntervalS_eq
    (parameter : UInt32) :
    requestedIntervalS parameter =
      max (10 : Int) (10 * (parameter.toNat / 10000) : Nat) := by
  rw [requestedIntervalS]
  omega

/-- The intervals that can be set, in seconds. -/
theorem requestedIntervalS_bounds
    (parameter : UInt32) :
    10 ≤ requestedIntervalS parameter ∧
      requestedIntervalS parameter ≤ 4294960 := by
  have small := parameter.toNat_lt
  rw [requestedIntervalS_eq]
  omega

/-- `SERVICE_REQUEST_MESSAGE_ID_SET_LOGGING_INTERVAL` -/
def setLoggingInterval
    (state : ItemStoreState) (controller : MeasurementItemController)
    (parameter : UInt32) :
    Except AssertionFailure
      (ItemStoreState × MeasurementItemController × List Published) :=
  let newInterval := requestedIntervalS parameter
  if newInterval ≠ controller.loggingIntervalS then
    let controller :=
      { controller with
        loggingIntervalS := newInterval
        currentSampleIndex := 0
        isSampleReady := false }
    if ¬ ItemStore.isEmpty state .measurementSample then do
      let deleted ← ItemStore.deleteAllItems state .measurementSample
      .ok (deleted.1, { controller with isLoggingIntervalChanged := true },
        [.erase deleted.2])
    else
      .ok (state, controller,
        [.saveLoggingInterval controller.loggingIntervalMs])
  else
    .ok (state, controller, [])

/-- `SERVICE_REQUEST_MESSAGE_ID_SET_REQUESTED_SAMPLES` -/
def setRequestedSamples
    (request : SampleRequestData) (parameter : Nat) : SampleRequestData :=
  { request with
    requestedNrOfSamples := parameter % 65536
    alreadyReadSamples := 0 }

/-- The age `BeginReadSamples` announces, in milliseconds. -/
def ageOfLatestSample
    (controller : MeasurementItemController) (extraSample : Nat) : UInt32 :=
  let timeUntilNextLogEntry :=
    max 0 (min controller.loggingIntervalS
      (controller.loggingIntervalS - controller.remainingTimeS))
  toUInt32
    ((timeUntilNextLogEntry +
      (extraSample + controller.currentSampleIndex) *
        controller.loggingIntervalS) * 1000)

/--
`BeginReadSamples` without the message it publishes: `count` is what
`ItemStore_Count` gives for a ready enumerator.
-/
def beginReadSamples
    (controller : MeasurementItemController) (request : SampleRequestData)
    (enumeratorReady : Bool) (count : Nat) : SampleRequestData :=
  let availableSamples :=
    if enumeratorReady then count * 2 % 65536 else 0
  let numberOfSamples := min availableSamples request.requestedNrOfSamples
  let extraSample := numberOfSamples % 2
  { request with
    extraSample := extraSample
    enumeratorStartIndex :=
      if availableSamples > numberOfSamples then
        (availableSamples - numberOfSamples - extraSample) / 2
      else
        0
    metadata :=
      { loggingIntervalMs := controller.loggingIntervalMs
        ageOfLatestSample := ageOfLatestSample controller extraSample
        numberOfSamples := numberOfSamples } }

/-- The operations of an enumerator that is ready. -/
structure EnumeratorOps (Enumeration : Type) where
  hasMoreItems : Enumeration → Bool
  getNext : Enumeration → Enumeration × Option (List Byte)

/-- The while loop of `ReadMoreSamples` with room for some more items. -/
def readLoop {Enumeration : Type}
    (ops : EnumeratorOps Enumeration) (unreadSamples : Nat) :
    Nat → Enumeration → Memory → Nat → Enumeration × Memory × Nat
  | 0, enumeration, cache, index => (enumeration, cache, index)
  | room + 1, enumeration, cache, index =>
      if ops.hasMoreItems enumeration ∧ index < unreadSamples then
        let next := ops.getNext enumeration
        let cache :=
          match next.2 with
          | none => cache
          | some data =>
              writeBytes cache (index * measurementSampleSize) data
        readLoop ops unreadSamples room next.1 cache (index + 1)
      else
        (enumeration, cache, index)

/-- `unreadSamples` of `ReadMoreSamples`, a `uint16_t`. -/
def unreadSamples (request : SampleRequestData) : Nat :=
  (((request.extraSample + request.metadata.numberOfSamples : Nat) -
    (request.alreadyReadSamples * 2 : Nat) : Int) % 65536).toNat

/-- `ReadMoreSamples` for a ready enumerator. -/
def readMoreSamples {Enumeration : Type}
    (ops : EnumeratorOps Enumeration) (enumeration : Enumeration)
    (request : SampleRequestData) : Enumeration × SampleRequestData :=
  let outcome :=
    readLoop ops (unreadSamples request) samplesCacheSize enumeration
      request.samplesCache 0
  let index := outcome.2.2
  (outcome.1,
    { request with
      samplesCache := outcome.2.1
      enumeratorStartIndex := (request.enumeratorStartIndex + index) % 65536
      alreadyReadSamples := (request.alreadyReadSamples + index) % 65536
      dataLength := index * measurementSampleSize })

/-- An enumerator over items that are known in advance. -/
def listOps : EnumeratorOps (List (List Byte)) where
  hasMoreItems := fun items => !items.isEmpty
  getNext := fun items => (items.tail, items.head?)

/-- Reading known items fills the cache with them, one after the other. -/
theorem readLoop_listOps
    {size : Nat}
    (items : List (List Byte))
    (sized : ∀ data ∈ items, data.length = measurementSampleSize)
    (unread room : Nat)
    (cache : Memory)
    (index : Nat)
    (count_eq : size = min items.length (min room (unread - index))) :
    readLoop listOps unread room items cache index =
      (items.drop size,
        writeBytes cache (index * measurementSampleSize)
          (items.take size).flatten,
        index + size) := by
  induction room generalizing items cache index size with
  | zero =>
      have none : size = 0 := by omega
      simp [readLoop, none]
  | succ room inductionHypothesis =>
      cases items with
      | nil =>
          have none : size = 0 := by simpa using count_eq
          simp [readLoop, listOps, none]
      | cons data rest =>
          rw [readLoop]
          by_cases more : index < unread
          · have positive : size ≠ 0 := by
              rw [count_eq, List.length_cons]
              omega
            obtain ⟨fewer, rfl⟩ := Nat.exists_eq_succ_of_ne_zero positive
            have length : data.length = measurementSampleSize :=
              sized data (List.mem_cons_self ..)
            rw [if_pos ⟨rfl, more⟩]
            simp only [listOps, List.head?_cons, List.tail_cons]
            rw [show (⟨fun items => !items.isEmpty,
                fun items => (items.tail, items.head?)⟩ :
                  EnumeratorOps (List (List Byte))) = listOps from rfl,
              @inductionHypothesis fewer rest
                (fun entry member =>
                  sized entry (List.mem_cons_of_mem _ member)) _ _
                (by rw [List.length_cons] at count_eq; omega)]
            simp only [Nat.succ_eq_add_one, List.drop_succ_cons,
              List.take_succ_cons, List.flatten_cons]
            rw [writeBytes_append, length, Nat.succ_mul]
            congr 2
            omega
          · have none : size = 0 := by omega
            rw [if_neg (fun both => more both.2)]
            simp [none]

/-- The bytes of some items. -/
theorem length_flatten
    {items : List (List Byte)}
    (sized : ∀ data ∈ items, data.length = measurementSampleSize) :
    items.flatten.length = items.length * measurementSampleSize := by
  induction items with
  | nil => rfl
  | cons data rest inductionHypothesis =>
      rw [List.flatten_cons, List.length_append,
        sized data (List.mem_cons_self ..),
        inductionHypothesis
          (fun entry member => sized entry (List.mem_cons_of_mem _ member)),
        List.length_cons, Nat.succ_mul]
      omega

/-- Dropping items drops their bytes. -/
theorem flatten_drop
    {items : List (List Byte)}
    (sized : ∀ data ∈ items, data.length = measurementSampleSize)
    (count : Nat) :
    (items.drop count).flatten = items.flatten.drop (8 * count) := by
  induction count generalizing items with
  | zero => rfl
  | succ count inductionHypothesis =>
      cases items with
      | nil => simp
      | cons data rest =>
          have length := sized data (List.mem_cons_self ..)
          have shift : 8 * (count + 1) = data.length + 8 * count := by
            rw [length, measurementSampleSize]
            omega
          rw [List.drop_succ_cons, List.flatten_cons, shift,
            List.drop_length_add_append]
          exact inductionHypothesis
            (fun entry member => sized entry (List.mem_cons_of_mem _ member))

/-- Taking items takes their bytes. -/
theorem flatten_take
    {items : List (List Byte)}
    (sized : ∀ data ∈ items, data.length = measurementSampleSize)
    (count : Nat) :
    (items.take count).flatten = items.flatten.take (8 * count) := by
  induction count generalizing items with
  | zero => rfl
  | succ count inductionHypothesis =>
      cases items with
      | nil => simp
      | cons data rest =>
          have length := sized data (List.mem_cons_self ..)
          have shift : 8 * (count + 1) = data.length + 8 * count := by
            rw [length, measurementSampleSize]
            omega
          rw [List.take_succ_cons, List.flatten_cons, List.flatten_cons,
            shift, List.take_length_add_append,
            inductionHypothesis (fun entry member =>
              sized entry (List.mem_cons_of_mem _ member))]

/-- `ReadMoreSamples` fetches the next items, as many as fit. -/
theorem readMoreSamples_listOps
    {size : Nat}
    {items : List (List Byte)}
    (sized : ∀ data ∈ items, data.length = measurementSampleSize)
    (request : SampleRequestData)
    (count_eq :
      size = min items.length
        (min samplesCacheSize (unreadSamples request))) :
    let fetched := (readMoreSamples listOps items request).2
    fetched =
        { request with
          samplesCache :=
            writeBytes request.samplesCache 0 (items.take size).flatten
          enumeratorStartIndex :=
            (request.enumeratorStartIndex + size) % 65536
          alreadyReadSamples :=
            (request.alreadyReadSamples + size) % 65536
          dataLength := size * measurementSampleSize } ∧
      readBytes fetched.samplesCache 0 fetched.dataLength =
        (items.take size).flatten := by
  have fetched :
      (readMoreSamples listOps items request).2 =
        { request with
          samplesCache :=
            writeBytes request.samplesCache 0 (items.take size).flatten
          enumeratorStartIndex :=
            (request.enumeratorStartIndex + size) % 65536
          alreadyReadSamples :=
            (request.alreadyReadSamples + size) % 65536
          dataLength := size * measurementSampleSize } := by
    rw [readMoreSamples, readLoop_listOps items sized _ _ _ _ count_eq]
    simp only [Nat.zero_add, Nat.zero_mul]
  have length :
      (items.take size).flatten.length = size * measurementSampleSize := by
    rw [length_flatten (fun data member =>
      sized data (List.mem_of_mem_take member)), List.length_take,
      Nat.min_eq_left (by omega)]
  refine ⟨fetched, ?_⟩
  rw [fetched]
  simp only [← length, readBytes_writeBytes_same]

end MeasurementItemController

end DemoBoard
